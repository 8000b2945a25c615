import Liquidity.CrossVenueEquity.Redeeming
import Liquidity.CrossVenueEquity.Minting

/-!
# The attempts side by side

A redemption and a mint share the ledger and nothing else, so each lives up to what the
other relies on.
-/

namespace Liquidity.CrossVenueEquity

open EventSourcing Process

def role : Direction → Role handle World.Truthful
  | .redemption => redemptionRole
  | .mint => mintRole

/-- The turns an attempt is given. -/
def Label.turns : Label → Nat
  | .resumeEquityToHedging _ _ turns | .resumeRedemption turns
  | .resumeEquityToMarketMaking _ _ turns | .resumeMint turns => turns

theorem attempt_ensures (config : Config) (label : Label) :
    (role label.direction).Ensures (fun _ => True) (attempt config label)
      fun result _ => 10 ≤ label.turns → result ≠ none := by
  have fewer : ∀ {turns : Nat} {result : Option Unit}, (3 ≤ turns → result ≠ none) →
      10 ≤ turns → result ≠ none := fun ends many => ends (by omega)
  cases label with
  | resumeEquityToHedging symbol quantity turns =>
      exact Role.Ensures.mapError (resumeEquityToHedging_ends symbol quantity turns)
  | resumeRedemption turns => exact Role.Ensures.mapError (resumeRedemption_ends turns)
  | resumeEquityToMarketMaking symbol quantity turns =>
      exact (resumeEquityToMarketMaking_ends config symbol quantity turns).mapError.weaken
        (fun _ _ => trivial) fun _ _ => fewer
  | resumeMint turns =>
      exact (resumeMint_ends config turns).mapError.weaken (fun _ _ => trivial)
        fun _ _ => fewer

theorem environment_streams {change : Env} {before after : World}
    (changed : environment change before = some after) :
    after.redemption = before.redemption ∧ after.mint = before.mint := by
  cases change with
  | mine hash success =>
      simp only [environment] at changed
      split at changed <;> cases changed
      exact ⟨rfl, rfl⟩

theorem compatible (config : Config) : (system config).Compatible World.Truthful
    (fun _ _ _ => True) (fun label => (role label.direction).rely)
    (fun label => (role label.direction).Performs)
    (fun label => returning fun result _ => 10 ≤ label.turns → result ≠ none) := by
  refine (system config).compatible_of_ensures (fun label => role label.direction) ?_ ?_ ?_ ?_
  · intro a b
    simp only [system, eq_comm]
  · intro label
    exact (attempt_ensures config label).weaken (fun _ _ => trivial) fun _ _ holds => holds
  · intro a b op before after apart _ performed
    obtain ⟨fits, choice, answer, handled⟩ := performed
    have differ : a.direction ≠ b.direction := of_decide_eq_false apart
    cases first : a.direction <;> cases second : b.direction
    case redemption.redemption => exact absurd (first.trans second.symm) differ
    case mint.mint => exact absurd (first.trans second.symm) differ
    case redemption.mint =>
        rw [first] at fits
        exact handle_ofRedemption fits handled
    case mint.redemption =>
        rw [first] at fits
        exact handle_due fits handled
  · intro change before after truthful changed
    have extended : before.Extends after := World.Extends.environment changed
    obtain ⟨redemption, mint⟩ := environment_streams changed
    refine ⟨truthful.extends extended redemption mint, fun label => ?_⟩
    cases label.direction with
    | redemption => exact ⟨redemption, extended⟩
    | mint => exact ⟨mint, extended⟩

theorem sound_empty (config : Config) : (system config).Sound World.Truthful
    (fun _ _ _ => True) (fun label => (role label.direction).rely)
    (fun label => (role label.direction).Performs)
    (fun label => returning fun result _ => 10 ≤ label.turns → result ≠ none)
    ⟨World.empty, []⟩ :=
  .initial .empty

theorem truthful_run {config : Config} {schedule : List (Act Choice Label Env)}
    {final : Process.Config Op Op.Ret AttemptError (Option Unit) World Label}
    (ran : (system config).run ⟨World.empty, []⟩ schedule = some final) :
    final.shared.Truthful :=
  ((sound_empty config).run (compatible config) ((system config).meetsAll_true _ _) ran).holds

end Liquidity.CrossVenueEquity
