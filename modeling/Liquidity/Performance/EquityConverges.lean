import Liquidity.Performance.EquityPhases

/-!
# When the timings of an equity transfer converge

The commands of mints and redemptions write streams of which every part may be folded
again without harm, with two exceptions. The table of timings converges on all others, as
long as the bot does not overtake an operator. On these it does not: a bot that has
reacted to every event is left with a wrong row by its next start.
-/

namespace Liquidity.Performance.Equity

open EventSourcing

variable {time : Time} {stream : List EquityEvent} {id : String}

/-- What a command to a mint or to a redemption adds. The identifiers of both are random,
and one identifier is that of one transfer. -/
inductive Written (id : String) (now : Time) : List EquityEvent → List EquityEvent → Prop where
  | mint {stream batch : List TokenizedEquityMintEvent}
      (written : TokenizedEquityMint.Written now stream batch) :
      Written id now (stream.map .mint) (batch.map .mint)
  | redemption {stream batch : List EquityRedemptionEvent}
      (written : EquityRedemption.Written now stream batch) :
      Written id now (stream.map .redemption) (batch.map .redemption)

end Liquidity.Performance.Equity
