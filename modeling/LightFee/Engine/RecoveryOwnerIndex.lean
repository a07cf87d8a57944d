import LightFee.Engine.RecoveryEvidence

/-!
# Owners of live orders and positions

Local records claim quantities on exchange positions. A position is owned when
its claims add up to its quantity; a claim that conflicts with itself or names
no venue makes the position ambiguous. Journal facts own what no local record
claims.
-/

namespace LightFee.Engine

open DynValue

variable [TextCase]

/-- A live row, or a leg that should be live. -/
structure ExchangeArtifact where
  kind : String
  symbol : String := ""
  venue : String := ""
  side : String := ""
  quantity : ExactFloat := .finite 0
  price : ExactFloat := .finite 0
  reduceOnly : Bool := false
  orderId : String := ""
  clientOrderId : String := ""
deriving DecidableEq

structure RecoveryOwner where
  ownerType : String
  ownerId : String := ""
  confidence : String := "orphan"
deriving DecidableEq, Repr

/-- Records of one kind and name are the same owner. -/
def RecoveryOwner.identity (owner : RecoveryOwner) : String × String :=
  (owner.ownerType, owner.ownerId)

/-- Venue, canonical symbol and side. -/
abbrev PositionKey := String × String × String

abbrev PositionClaim := ExactFloat × RecoveryOwner

structure JournalPositionFact where
  venue : String
  symbol : String
  side : String
  quantity : ExactFloat
  owner : RecoveryOwner
deriving DecidableEq

structure RecoveryOwnerIndex where
  ordersById : OrderedDict String RecoveryOwner := .empty
  ordersByClientId : OrderedDict String RecoveryOwner := .empty
  positionsByKey : OrderedDict PositionKey (List PositionClaim) := .empty
  positionScopes : List (String × String) := []
  journalPositionFacts : List JournalPositionFact := []

namespace RecoveryOwnerIndex

/-! ## Reading records -/

/-- `float(value)`, or not-a-number. -/
def floatOf (value : DynValue) : ExactFloat := value.toFloat?.getD .notANumber

def ownerText (value : DynValue) : String := if value.isNull then "" else textOf value

def ownerSymbol (row : DynValue) : String :=
  TextCase.upper (ownerText (row.get "symbol" (.str "")))

def normalizeVenue (value : DynValue) : String := TextCase.lower (ownerText value.unwrap)

def ownerVenue (row : DynValue) : String := normalizeVenue (row.get "venue" (.str ""))

def venueFromKey (row : DynValue) (key : String) : String := normalizeVenue (row.get key (.str ""))

/-- The canonical symbol at a venue, else at the row's own venue. -/
def symbolForVenue (row : DynValue) (venue : String := "") : String :=
  Venues.canonicalSymbolFromVenue (if venue = "" then ownerVenue row else venue) (ownerSymbol row)

def legText (value : DynValue) : String := TextCase.lower (ownerText value.unwrap)

def sideOf (value : DynValue) : String :=
  let text := legText value
  if ["buy", "long", "side.buy"].contains text then "long"
  else if ["sell", "short", "side.sell"].contains text then "short"
  else if TextSearch.endsWith ".buy" text then "long"
  else if TextSearch.endsWith ".sell" text then "short"
  else text

def positionKey (position : DynValue) : PositionKey :=
  (ownerVenue position, symbolForVenue position, sideOf (position.get "side" (.str "")))

def observedQuantity (position : DynValue) : ExactFloat := floatOf (position.get "quantity")

/-! ## Building the index -/

/-- Records of one owner are not added up; a conflicting one spoils the claim. -/
def addClaim (owner : RecoveryOwner) (quantity : ExactFloat) (claims : List PositionClaim) :
    List PositionClaim :=
  match claims.find? (fun claim => claim.2.identity == owner.identity) with
  | some (old, _) => if old.eq quantity then claims else claims ++ [(.notANumber, owner)]
  | none => claims ++ [(quantity, owner)]

def claimsAt (index : RecoveryOwnerIndex) (key : PositionKey) : List PositionClaim :=
  (index.positionsByKey.find? key).getD []

def indexPosition (index : RecoveryOwnerIndex) (owner : RecoveryOwner) (venue symbol side : String)
    (quantity : ExactFloat) : RecoveryOwnerIndex :=
  if symbol = "" then index
  else { index with
    positionScopes := index.positionScopes ++ [(venue, symbol)]
    positionsByKey := index.positionsByKey.insert (venue, symbol, side)
      (addClaim owner quantity (index.claimsAt (venue, symbol, side))) }

def indexOrderIds (index : RecoveryOwnerIndex) (owner : RecoveryOwner)
    (orderIds clientOrderIds : List DynValue) : RecoveryOwnerIndex :=
  let put (known : OrderedDict String RecoveryOwner) (id : DynValue) :=
    if ownerText id = "" then known else known.insert (ownerText id) owner
  { index with
    ordersById := orderIds.foldl put index.ordersById
    ordersByClientId := clientOrderIds.foldl put index.ordersByClientId }

/-- The leg of the maker order, or the side it trades. -/
def makerLegOf (pending : DynValue) : String :=
  let makerLeg := legText (pending.get "maker_leg" (.str ""))
  if ["long", "short"].contains makerLeg then makerLeg
  else
    let makerSide := legText (pending.get "maker_side" (.str ""))
    if ["buy", "long"].contains makerSide then "long"
    else if ["sell", "short"].contains makerSide then "short"
    else makerLeg

/-- The fills of a pending entry claim its two legs; an unknown leg claims both
venues without a side. -/
def indexPendingEntryPositionKeys (index : RecoveryOwnerIndex) (owner : RecoveryOwner)
    (pending : DynValue) : RecoveryOwnerIndex :=
  let makerFill := floatOf (pending.get "maker_leg_filled")
  let hedgeFill := floatOf (pending.get "hedge_leg_filled")
  let longVenue := venueFromKey pending "long_venue"
  let shortVenue := venueFromKey pending "short_venue"
  let zero := ExactFloat.finite 0
  if makerFill.eq zero && hedgeFill.eq zero then index
  else
    let makerLeg := makerLegOf pending
    if !(["long", "short"].contains makerLeg) then
      (index.indexPosition owner longVenue (symbolForVenue pending longVenue) "" .notANumber)
        |>.indexPosition owner shortVenue (symbolForVenue pending shortVenue) "" .notANumber
    else
      let (longFill, shortFill) :=
        if makerLeg = "short" then (hedgeFill, makerFill) else (makerFill, hedgeFill)
      let withLong := if longFill.eq zero then index
        else index.indexPosition owner longVenue (symbolForVenue pending longVenue) "long" longFill
      if shortFill.eq zero then withLong
      else withLong.indexPosition owner shortVenue (symbolForVenue pending shortVenue) "short" shortFill

/-- Both quantities are positive and equal up to the pair tolerance. -/
def balancedPair (longQuantity shortQuantity : ExactFloat) : Bool :=
  match longQuantity, shortQuantity with
  | .finite long, .finite short => 0 < min long short && |long - short| ≤ v1PairQuantityEpsilon
  | _, _ => false

def collection (state : DynValue) (key : String) : List DynValue := (state.get key (.list [])).items

/-- Names that a record of one kind gives to its owner. -/
def idsOf (records : List DynValue) (key : String) : List String :=
  records.map (fun record => ownerText (record.get key (.str "")))

def addPendingEntry (openIds : List String) (index : RecoveryOwnerIndex) (pending : DynValue) :
    RecoveryOwnerIndex :=
  let owner : RecoveryOwner := {
    ownerType := "pending_entry"
    ownerId := ownerText (pending.get "pending_id" (pending.get "position_id" (.str "")))
    confidence := "proven" }
  let indexed := index.indexOrderIds owner
    [pending.get "maker_order_id" (.str ""), pending.get "hedge_order_id" (.str "")]
    [pending.get "maker_client_order_id" (.str ""), pending.get "hedge_client_order_id" (.str "")]
  if owner.ownerId = "" ∨ owner.ownerId ∉ openIds then
    indexed.indexPendingEntryPositionKeys owner pending
  else indexed

/-- An unbalanced position is an orphan unless other work manages it. -/
def addOpenPosition (managedOpenIds : List String) (index : RecoveryOwnerIndex)
    (position : DynValue) : RecoveryOwnerIndex :=
  let positionId := ownerText (position.get "position_id" (position.get "symbol" (.str "")))
  let longQuantity := floatOf (position.get "long_quantity")
  let shortQuantity := floatOf (position.get "short_quantity")
  let owner : RecoveryOwner := {
    ownerType := "open_position"
    ownerId := positionId
    confidence := if balancedPair longQuantity shortQuantity || managedOpenIds.contains positionId
      then "proven" else "orphan" }
  let longVenue := venueFromKey position "long_venue"
  let shortVenue := venueFromKey position "short_venue"
  (index.indexPosition owner longVenue (symbolForVenue position longVenue) "long" longQuantity)
    |>.indexPosition owner shortVenue (symbolForVenue position shortVenue) "short" shortQuantity

/-- Exposure that another record already counts is not claimed again. -/
def addResidualRepair (openIds pendingIds : List String) (index : RecoveryOwnerIndex)
    (residual : DynValue) : RecoveryOwnerIndex :=
  let positionId := ownerText (residual.get "position_id" (.str ""))
  let origin := legText (residual.get "origin" (.str ""))
  if positionId ≠ "" ∧ ((positionId ∈ pendingIds ∧ positionId ∉ openIds) ∨
      (positionId ∈ openIds ∧ origin ≠ "entry_open")) then index
  else
    let repairId := ownerText (residual.get "repair_id" (residual.get "task_id" (.str "")))
    let owner : RecoveryOwner := {
      ownerType := "residual_repair"
      ownerId := if repairId ≠ "" then repairId
        else if positionId ≠ "" then positionId else ownerSymbol residual
      confidence := "probable" }
    let venue := normalizeVenue (((residual.get "repair_venue").orElse
      (residual.get "exposure_venue")).orElse (residual.get "venue" (.str "")))
    let closeSide := sideOf ((residual.get "repair_side").orElse
      (residual.get "exposure_side" (.str "")))
    let side := if closeSide = "long" then "short" else if closeSide = "short" then "long" else ""
    index.indexPosition owner venue (symbolForVenue residual venue) side
      (floatOf (residual.get "repair_quantity" (residual.get "exposure_quantity")))

def addState (index : RecoveryOwnerIndex) (state : DynValue) : RecoveryOwnerIndex :=
  let openPositions := collection state "open_positions"
  let pendingEntries := collection state "pending_entries"
  let residualRepairs := collection state "pending_residual_repairs"
  let openIds := idsOf openPositions "position_id"
  let pendingIds := idsOf pendingEntries "pending_id"
  let managedOpenIds := (pendingIds ++ idsOf residualRepairs "position_id" ++
    idsOf (collection state "pending_passive_closes") "position_id").filter (fun id => id ≠ "")
  let withEntries := pendingEntries.foldl (addPendingEntry openIds) index
  let withPositions := openPositions.foldl (addOpenPosition managedOpenIds) withEntries
  residualRepairs.foldl (addResidualRepair openIds pendingIds) withPositions

def fromState (state : DynValue) : RecoveryOwnerIndex := addState {} state

/-! ## Owners of live rows -/

def ownerForOrder (index : RecoveryOwnerIndex) (artifact : ExchangeArtifact) : RecoveryOwner :=
  let byId := if artifact.orderId = "" then none else index.ordersById.find? artifact.orderId
  let byClientId := if artifact.clientOrderId = "" then none
    else index.ordersByClientId.find? artifact.clientOrderId
  (byId.or byClientId).getD {
    ownerType := "exchange_order"
    ownerId := if artifact.orderId ≠ "" then artifact.orderId else artifact.clientOrderId }

/-- Another owner's partial or malformed claim is protected. -/
def hasPositionClaim (index : RecoveryOwnerIndex) (position : DynValue) : Bool :=
  index.positionScopes.contains (ownerVenue position, symbolForVenue position) ||
    index.positionScopes.contains ("", symbolForVenue position)

/-- A claim on the symbol without a venue, or on it at the venue without a side. -/
def ambiguousScope (index : RecoveryOwnerIndex) (venue symbol : String) : Bool :=
  index.positionsByKey.entries.any (fun entry =>
    entry.1.2.1 = symbol && (entry.1.1 = "" || (entry.1.1 = venue && entry.1.2.2 = "")))

/-- The claims are usable and add up to the quantity. -/
def claimsMatch (claims : List PositionClaim) (quantity : ExactFloat) : Bool :=
  let expected := ExactFloat.sum (claims.map Prod.fst)
  quantity.isFinite && (ExactFloat.finite 0).lt quantity && (ExactFloat.finite 0).lt expected &&
    claims.all (fun claim => claim.1.isFinite && (ExactFloat.finite 0).le claim.1 &&
      claim.2.confidence ≠ "orphan") &&
    (quantity.sub expected).abs.le (.finite v1PairQuantityEpsilon)

/-- A pending component keeps its classification beside an open position. -/
def ownerRank (owner : RecoveryOwner) : Nat :=
  match owner.ownerType with
  | "pending_entry" => 0
  | "residual_repair" => 1
  | "open_position" => 2
  | _ => 3

def precedes (left right : RecoveryOwner) : Bool :=
  ownerRank left < ownerRank right ||
    (ownerRank left = ownerRank right && left.ownerId < right.ownerId)

/-- The first least owner of a positive claim. -/
def leadingOwner (claims : List PositionClaim) : Option RecoveryOwner :=
  claims.foldl (fun best claim =>
    if !(ExactFloat.finite 0).lt claim.1 then best
    else
      match best with
      | none => some claim.2
      | some owner => if precedes claim.2 owner then some claim.2 else some owner) none

/-- The latest journal fact within one percent of the quantity. -/
def ownerForJournalPositionFact (index : RecoveryOwnerIndex) (position : DynValue) :
    Option RecoveryOwner :=
  let (venue, symbol, side) := positionKey position
  let quantity := floatOf (position.get "quantity" (.int 0))
  if symbol = "" ∨ side = "" ∨ venue = "" then none
  else
    match quantity with
    | .finite observed =>
      if observed ≤ 0 then none
      else
        (index.journalPositionFacts.reverse.find? (fun fact =>
          fact.venue = venue && fact.symbol = symbol && fact.side = side &&
            (match fact.quantity with
              | .finite submitted => 0 < submitted && |submitted - observed| ≤ submitted / 100
              | _ => false))).map JournalPositionFact.owner
    | _ => none

def ownerForPosition (index : RecoveryOwnerIndex) (position : DynValue) : RecoveryOwner :=
  let (venue, symbol, side) := positionKey position
  let quantity := floatOf (position.get "quantity" (.int 0))
  let claims := index.claimsAt (venue, symbol, side)
  let orphan : RecoveryOwner := { ownerType := "exchange_position", ownerId := symbol }
  if !claims.isEmpty && !index.ambiguousScope venue symbol && ["long", "short"].contains side &&
      claimsMatch claims quantity then
    (leadingOwner claims).getD orphan
  else if index.hasPositionClaim position then orphan
  else (index.ownerForJournalPositionFact position).getD orphan

/-- Rows that share a key are orphans: a venue position is one aggregate. -/
def ownersForPositions (index : RecoveryOwnerIndex) (positions : List DynValue) :
    List RecoveryOwner :=
  let keys := positions.map positionKey
  positions.map (fun position =>
    if 1 < keys.count (positionKey position) then
      { ownerType := "exchange_position", ownerId := (positionKey position).2.1 }
    else index.ownerForPosition position)

/-- Keys of the rows with a positive size. -/
def observedKeys (positions : List DynValue) : List PositionKey :=
  (positions.filter (fun position => (observedQuantity position).isFinite &&
    (ExactFloat.finite epsilon).lt (observedQuantity position))).map positionKey

/-- Owners with a claim on an observed key. -/
def liveOwners (index : RecoveryOwnerIndex) (observed : List PositionKey) :
    List (String × String) :=
  (index.positionsByKey.entries.filter (fun entry => observed.contains entry.1)).flatMap (fun entry =>
    entry.2.map (fun claim => claim.2.identity))

/-- Missing legs of owners that are still live on another leg. -/
def missingPositionClaims (index : RecoveryOwnerIndex) (positions : List DynValue) :
    List ExchangeArtifact :=
  let observed := observedKeys positions
  (index.positionsByKey.entries.filter (fun entry =>
    let (venue, _, side) := entry.1
    venue ≠ "" && ["long", "short"].contains side && !observed.contains entry.1 &&
      entry.2.any (fun claim => !claim.1.eq (.finite 0) &&
        (index.liveOwners observed).contains claim.2.identity))).map (fun entry =>
    { kind := "missing_position", venue := entry.1.1, symbol := entry.1.2.1, side := entry.1.2.2 })

end RecoveryOwnerIndex

end LightFee.Engine
