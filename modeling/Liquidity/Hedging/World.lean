import Liquidity.OffchainOrder.Finalization
import Liquidity.Position.Claim
import Liquidity.Process.Interleaving

/-!
# The world of the hedging jobs

Positions, offchain orders, the broker and the durable job queue are shared by
all hedging jobs. A job touches them one operation at a time: load or send an
aggregate, ask the broker, push a follow-up job. A view is a projection of an
aggregate and may lag behind it. The queue delivers at least once, so a job that
was pushed may run any number of times.

Three parts of the model are history, kept for stating properties and read by no
operation. `Basis` annotates a command with what its sender had read before,
`minted` remembers for which symbol an order identifier was drawn, and
`duplicates` which placements met a key the broker already held.
-/

namespace Liquidity.Hedging

open EventSourcing Process

/-- A durable request to place a hedge. -/
structure PlaceHedge where
  symbol : Symbol
  direction : Direction
  shares : Positive
  executor : SupportedExecutor
  threshold : ExecutionThreshold
  offchainOrderId : OffchainOrderId
  marketSession : MarketSession
  /-- History: the net position the request was computed from. -/
  scannedNet : FractionalShares
  deriving DecidableEq

structure ReconcileOrderFill where
  offchainOrderId : OffchainOrderId
  price : Usd
  executorOrderId : ExecutorOrderId
  brokerTimestamp : Time
  deriving DecidableEq

structure HandleOrderRejection where
  offchainOrderId : OffchainOrderId
  error : String
  brokerFailedAt : Option Time
  deriving DecidableEq

inductive Job where
  | placeHedge (job : PlaceHedge)
  | pollOrderStatus (offchainOrderId : OffchainOrderId)
  | reconcileOrderFill (job : ReconcileOrderFill)
  | handleOrderRejection (job : HandleOrderRejection)
  deriving DecidableEq

/-- An order as the broker holds it. The last two fields are what its API echoes. -/
structure BrokerOrder where
  id : ExecutorOrderId
  clientOrderId : ClientOrderId
  symbol : Symbol
  side : Direction
  quantity : Positive
  extendedHours : Option Bool
  limitPrice : Option Usd
  deriving DecidableEq

/-- A placement as it is posted to the broker. -/
structure OrderRequest where
  symbol : Symbol
  quantity : Positive
  side : Direction
  extendedHours : Bool
  limitPrice : Option Positive
  clientOrderId : ClientOrderId
  deriving DecidableEq

inductive PostOrderError where
  | duplicateClientOrderId
  | api (message : String)
  deriving DecidableEq, Repr

inductive CounterTradePreflight where
  /-- Allowed, with the equity quantity that may be sold if it was limited. -/
  | allowed (equityRequired : Option Positive)
  | skipped
  deriving DecidableEq

/-- What the sender of a command had read when it decided to send it. -/
inductive Basis where
  | unspecified
  /-- A placement path saw the order failed. -/
  | failedOrder
  /-- A recovery path saw no order at all. -/
  | noOrder
  /-- A rejection acts on this snapshot of the order. -/
  | rejected (order : OffchainOrder)
  /-- A placement was computed from this net position. -/
  | scanned (net : FractionalShares)
  deriving DecidableEq

structure World where
  positions : Streams Symbol PositionEvent
  orders : Streams OffchainOrderId OffchainOrderEvent
  broker : List BrokerOrder
  jobs : List Job
  minted : List (OffchainOrderId × Symbol)
  duplicates : List (OrderRequest × BrokerOrder)

def World.empty : World := ⟨fun _ => [], fun _ => [], [], [], [], []⟩

inductive Op where
  | loadPosition (symbol : Symbol)
  | loadPositionView (symbol : Symbol)
  | sendPosition (symbol : Symbol) (command : PositionCommand) (basis : Basis)
  | loadOrder (id : OffchainOrderId)
  | loadOrderView (id : OffchainOrderId)
  | sendOrder (id : OffchainOrderId) (command : OffchainOrderCommand)
  | newOrderId (symbol : Symbol)
  | push (job : Job)
  | transferActive (symbol : Symbol)
  | marketSession
  | fetchLatestTradePrice (symbol : Symbol)
  | preflightCounterTrade (symbol : Symbol) (shares : Positive) (direction : Direction)
  | postOrder (request : OrderRequest)
  | getOrderByClientOrderId (key : ClientOrderId)
  | getOrderStatus (id : ExecutorOrderId)

/-- A call that can fail for reasons outside of the program. -/
abbrev Attempt (α : Type) := Except String α

@[reducible] def Op.Ret : Op → Type
  | .loadPosition _ | .loadPositionView _ => Except (SendError PositionError) (Option Position)
  | .sendPosition _ _ _ => Except (SendError PositionError) Unit
  | .loadOrder _ | .loadOrderView _ =>
      Except (SendError OffchainOrderError) (Option OffchainOrder)
  | .sendOrder _ _ => Except (SendError OffchainOrderError) Unit
  | .newOrderId _ => OffchainOrderId
  | .push _ => Attempt Unit
  | .transferActive _ => Attempt Bool
  | .marketSession => Attempt MarketSession
  | .fetchLatestTradePrice _ => Attempt (Option Positive)
  | .preflightCounterTrade _ _ _ => Attempt CounterTradePreflight
  | .postOrder _ => Except PostOrderError ExecutorOrderId
  | .getOrderByClientOrderId _ => Attempt (Option BrokerOrder)
  | .getOrderStatus _ => Attempt OrderState

/-- What becomes of a placement under a key that is new to the broker. -/
inductive PostOutcome where
  | accepted
  /-- Recorded by the broker, but the response never arrives. -/
  | lost
  | refused (message : String)
  deriving DecidableEq, Repr

/-- How the environment answers one operation. -/
structure Choice where
  now : Time := 0
  /-- Whether the store, the queue or the broker can be reached. -/
  available : Bool := true
  /-- How many events a view is behind. -/
  lag : Nat := 0
  /-- The identifier drawn next, by the bot or by the broker. -/
  uuid : Nat := 0
  transferActive : Bool := false
  session : MarketSession := .regular
  latestTradePrice : Option Positive := none
  preflight : CounterTradePreflight := .allowed none
  post : PostOutcome := .accepted
  /-- Whether the broker echoes the session terms of the orders it holds. -/
  echo : Bool := true
  status : OrderState := .pending
  cancel : Option CancellationOutcome := none

def Choice.services (choice : Choice) : OrderServices where
  now := choice.now
  orderStatus := if choice.available then some choice.status else none
  cancelOrder := choice.cancel

/-- The part of a stream that a view has seen. -/
def seen {Event : Type} (lag : Nat) (stream : List Event) : List Event :=
  stream.take (stream.length - lag)

/-- The identifier the broker assigns. -/
def brokerId (uuid : Nat) : ExecutorOrderId := ⟨toString uuid⟩

def BrokerOrder.ofRequest (request : OrderRequest) (id : ExecutorOrderId) (echo : Bool) :
    BrokerOrder where
  id := id
  clientOrderId := request.clientOrderId
  symbol := request.symbol
  side := request.side
  quantity := request.quantity
  extendedHours := if echo then some request.extendedHours else none
  limitPrice := if echo then request.limitPrice.map Positive.inner else none

def World.held (world : World) (key : ClientOrderId) : Option BrokerOrder :=
  world.broker.find? fun order => order.clientOrderId = key

/-- Post an order. A key the broker already holds is refused as a duplicate. -/
def World.postOrder (world : World) (choice : Choice) (request : OrderRequest) :
    Option (Except PostOrderError ExecutorOrderId × World) :=
  if !choice.available then some (.error (.api "unreachable"), world)
  else match world.held request.clientOrderId with
    | some existing =>
        some (.error .duplicateClientOrderId,
          { world with duplicates := world.duplicates ++ [(request, existing)] })
    | none =>
        let id := brokerId choice.uuid
        let recorded : World :=
          { world with broker := world.broker ++ [.ofRequest request id choice.echo] }
        -- The broker never assigns an identifier twice.
        if world.broker.any (fun order => order.id = id) then none
        else match choice.post with
          | .accepted => some (.ok id, recorded)
          | .lost => some (.error (.api "timeout"), recorded)
          | .refused message => some (.error (.api message), world)

section Handle

variable [FloatFormat]

def handle (choice : Choice) : (op : Op) → World → Option (op.Ret × World)
  | .loadPosition symbol, world =>
      some (if choice.available then Position.aggregate.load (world.positions symbol)
        else .error .infrastructure, world)
  | .loadPositionView symbol, world =>
      some (if choice.available then
        Position.aggregate.load (seen choice.lag (world.positions symbol))
        else .error .infrastructure, world)
  | .sendPosition symbol command _, world =>
      if choice.available then
        match Position.aggregate.send choice.now command (world.positions symbol) with
        | .ok events =>
            some (.ok (), { world with positions := world.positions.append symbol events })
        | .error error => some (.error error, world)
      else some (.error .infrastructure, world)
  | .loadOrder id, world =>
      some (if choice.available then OffchainOrder.aggregate.load (world.orders id)
        else .error .infrastructure, world)
  | .loadOrderView id, world =>
      some (if choice.available then OffchainOrder.aggregate.load (seen choice.lag (world.orders id))
        else .error .infrastructure, world)
  | .sendOrder id command, world =>
      if choice.available then
        match OffchainOrder.aggregate.send choice.services command (world.orders id) with
        | .ok events => some (.ok (), { world with orders := world.orders.append id events })
        | .error error => some (.error error, world)
      else some (.error .infrastructure, world)
  | .newOrderId symbol, world =>
      let id : OffchainOrderId := ⟨choice.uuid⟩
      if world.minted.any (fun entry => entry.1 = id) then none
      else some (id, { world with minted := world.minted ++ [(id, symbol)] })
  | .push job, world =>
      if choice.available then some (.ok (), { world with jobs := world.jobs ++ [job] })
      else some (.error "Failed to enqueue follow-up job", world)
  | .transferActive _, world =>
      some (if choice.available then .ok choice.transferActive else .error "Database error", world)
  | .marketSession, world =>
      some (if choice.available then .ok choice.session else .error "unreachable", world)
  | .fetchLatestTradePrice _, world =>
      some (if choice.available then .ok choice.latestTradePrice else .error "unreachable", world)
  | .preflightCounterTrade _ _ _, world =>
      some (if choice.available then .ok choice.preflight else .error "unreachable", world)
  | .postOrder request, world => world.postOrder choice request
  | .getOrderByClientOrderId key, world =>
      some (if choice.available then .ok (world.held key) else .error "unreachable", world)
  | .getOrderStatus _, world =>
      some (if choice.available then .ok choice.status else .error "unreachable", world)

end Handle

end Liquidity.Hedging
