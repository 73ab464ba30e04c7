import IrLink.Proofs.Decode.FirstReference
import IrLink.Proofs.Decode.Rebuilding

/-!
# Linking two records in either order

Two records were linked, one after the other.  If the symbols and the loops that both of them
name were known before, then they can be linked in the other order as well, and nothing is
different then but the numbers of what was made (`Decode.either_order`).

Each of the records makes as many symbols, declarations and loops in one order as in the
other.  So the numbers of the first and those of the second change places (`State.exchange`).
Either record is linked again from another state (`Replay`): the later one from the state in
which the earlier one began, and the earlier one from the state that this leaves.
-/

namespace IrLink

/-! ## Numbers that change places -/

/-- Where `first` to `last` are numbered in two parts, the numbers when the part that begins
at `middle` is the first one become those when it is the second one. -/
def exchanged (first middle last number : Nat) : Nat :=
  if number < first then number
  else if number < first + (last - middle) then number + (middle - first)
  else if number < last then number - (last - middle)
  else number

section Numbers

variable {first middle last : Nat}

theorem exchanged_of_lt {number : Nat} (below : number < first) :
    exchanged first middle last number = number :=
  if_pos below

theorem exchanged_later {count : Nat} (early : first ≤ middle) (below : middle + count < last) :
    exchanged first middle last (first + count) = middle + count := by
  rw [exchanged, if_neg (by omega), if_pos (by omega)]
  omega

/-- In the other order, the part that began first follows those that were `made` after it. -/
theorem exchanged_earlier {other made count : Nat} (own : other = first + made)
    (image : last = middle + made) (below : first + count < middle) :
    exchanged first middle last (other + count) = first + count := by
  rw [exchanged, if_neg (by omega), if_neg (by omega), if_pos (by omega)]
  omega

theorem exchanged_of_le {number : Nat} (early : first ≤ middle) (late : middle ≤ last)
    (beyond : last ≤ number) : exchanged first middle last number = number := by
  rw [exchanged, if_neg (by omega), if_neg (by omega), if_neg (by omega)]

theorem exchanged_exchanged (early : first ≤ middle) (late : middle ≤ last) (number : Nat) :
    exchanged first (first + (last - middle)) last (exchanged first middle last number) =
      number := by
  unfold exchanged
  split_ifs <;> omega

theorem bijective_exchanged (early : first ≤ middle) (late : middle ≤ last) :
    Function.Bijective (exchanged first middle last) := by
  rw [Function.bijective_iff_has_inverse]
  exists exchanged first (first + (last - middle)) last
  constructor
  · exact exchanged_exchanged early late
  · intro number
    have within : first + (last - middle) ≤ last := by omega
    have back := exchanged_exchanged (Nat.le_add_right first (last - middle)) within number
    rwa [show first + (last - (first + (last - middle))) = middle by omega] at back

end Numbers

/-! ## Symbols that change numbers -/

namespace Symbol

/-- A symbol with another number, unless it is known. -/
def renumber (known : UInt64 → Bool) (numbers : Nat → Nat) (symbol : Symbol) : Symbol :=
  if known symbol.id then symbol else { symbol with serial := numbers symbol.serial }

variable {known : UInt64 → Bool} {numbers back : Nat → Nat}

theorem exists_renumber (symbol : Symbol) :
    ∃ serial, symbol.renumber known numbers = { symbol with serial } := by
  unfold renumber
  split
  · exact ⟨symbol.serial, rfl⟩
  · exact ⟨numbers symbol.serial, rfl⟩

theorem renumber_renumber (undone : ∀ number, back (numbers number) = number)
    (symbol : Symbol) : (symbol.renumber known numbers).renumber known back = symbol := by
  cases isKnown : known symbol.id with
  | true => rw [renumber, renumber, if_pos isKnown, if_pos isKnown]
  | false => simp only [renumber, isKnown, Bool.false_eq_true, if_false, undone]

theorem bijective_renumber (bijective : Function.Bijective numbers) :
    Function.Bijective (renumber known numbers) := by
  rcases Function.bijective_iff_has_inverse.mp bijective with ⟨back, left, right⟩
  exact Function.bijective_iff_has_inverse.mpr
    ⟨renumber known back, renumber_renumber left, renumber_renumber right⟩

end Symbol

/-! ## Renamings of what is new -/

/-- A renaming of what is new since a state: it is one to one, it changes nothing of a symbol
but its number, and what the state has keeps its identity. -/
structure Renaming.NewSince (names : Renaming) (start : State) : Prop where
  symbol : Function.Bijective names.symbol
  node : Function.Bijective names.node
  loop : Function.Bijective names.loop
  serial : ∀ symbol, ∃ serial, names.symbol symbol = { symbol with serial }
  known : ∀ (id : UInt64) (symbol : Symbol), start.symbols[id]? = some symbol →
    names.symbol symbol = symbol
  nodes : ∀ node, node < start.nextNode → names.node node = node
  loops : ∀ node, node < start.loops.nextNode → names.loop node = node

namespace Renaming.NewSince

variable {names : Renaming} {start : State}

theorem onto (since : names.NewSince start) : names.Onto where
  symbol := since.symbol.surjective
  node := since.node.surjective
  loop := since.loop.surjective

theorem kind (since : names.NewSince start) (symbol : Symbol) :
    (names.symbol symbol).kind = symbol.kind := by
  rcases since.serial symbol with ⟨serial, same⟩
  rw [same]

theorem bound (since : names.NewSince start) (symbol : Symbol) :
    (names.symbol symbol).bound = symbol.bound := by
  rcases since.serial symbol with ⟨serial, same⟩
  rw [same]

/-- A symbol that was found before is the same. -/
theorem map_symbol (since : names.NewSince start) (id : UInt64) :
    start.symbols[id]?.map names.symbol = start.symbols[id]? := by
  cases known : start.symbols[id]? with
  | none => rfl
  | some symbol => exact congrArg some (since.known id symbol known)

/-- A loop that was registered before is the same. -/
theorem map_loop (since : names.NewSince start) (ordered : start.loops.Ordered) (id : Int32) :
    (start.loops.lookup? id).map names.loop = start.loops.lookup? id := by
  cases known : start.loops.lookup? id with
  | none => rfl
  | some node => exact congrArg some (since.loops node (ordered.lookup?_lt known))

end Renaming.NewSince

namespace State

variable {start middle last : State}

/-- What was made in one order of linking becomes what was made in the other order, in which
there was a state between. -/
def exchange (start middle last : State) : Renaming where
  symbol := Symbol.renumber start.knowsId
    (exchanged start.symbolCount middle.symbolCount last.symbolCount)
  node := exchanged start.nextNode middle.nextNode last.nextNode
  loop := exchanged start.loops.nextNode middle.loops.nextNode last.loops.nextNode

theorem newSince_exchange (keyed : start.Keyed) (early : start.Precedes middle)
    (late : middle.Precedes last) : (start.exchange middle last).NewSince start where
  symbol := Symbol.bijective_renumber (bijective_exchanged early.symbolCount late.symbolCount)
  node := bijective_exchanged early.nextNode late.nextNode
  loop := bijective_exchanged early.nextLoop late.nextLoop
  serial := fun symbol => symbol.exists_renumber
  known := fun id symbol known => by
    refine if_pos ?_
    rw [knowsId, cachedSymbol?, keyed id symbol known, known]
    rfl
  nodes := fun _ => exchanged_of_lt
  loops := fun _ => exchanged_of_lt

/-- The new number of a symbol that was made. -/
theorem exchange_symbol {serial number : Nat} {id : UInt64} (unknown : start.symbols[id]? = none)
    (moved : exchanged start.symbolCount middle.symbolCount last.symbolCount serial = number)
    (kind : SymbolKind) (bound : Option Descriptor) :
    (start.exchange middle last).symbol ⟨serial, id, kind, bound⟩ =
      ⟨number, id, kind, bound⟩ := by
  have new : start.knowsId id = false := by
    rw [knowsId, cachedSymbol?, unknown]
    rfl
  rw [← moved]
  exact if_neg (Bool.eq_false_iff.mp new)

/-- Two states that come from one have the same maps, up to the identities of what is new. -/
structure SameUpTo (start : State) (names : Renaming) (state image : State) : Prop where
  symbols : ∀ id : UInt64, image.symbols[id]? = state.symbols[id]?.map names.symbol
  registered : ∀ id, image.loops.lookup? id = (state.loops.lookup? id).map names.loop
  /-- New loops have the same contents. -/
  loops : ∀ node, start.loops.nextNode ≤ node →
    image.loops.node? (names.loop node) = (state.loops.node? node).map (·.rename names)
  oldLoops : ∀ node, node < start.loops.nextNode →
    state.loops.node? node = start.loops.node? node ∧
      image.loops.node? node = start.loops.node? node
  declarations : ∀ id : DescriptorId, start.declarations[id]? = none →
    image.declarations[id]? = state.declarations[id]?.map (Tree.rename names)
  oldDeclarations : ∀ id declaration, start.Registers id declaration →
    state.Registers id declaration ∧ image.Registers id declaration

end State

/-- Two records have in common only what is known. -/
structure State.Separates (state : State) {c d : Category} (first : Record c)
    (second : Record d) : Prop where
  symbols : ∀ id ∈ first.symbolIds, id ∈ second.symbolIds → state.symbols[id]? ≠ none
  loops : ∀ id ∈ first.loopIds, id ∈ second.loopIds → state.loops.lookup? id ≠ none

theorem State.Separates.symm {state : State} {c d : Category} {first : Record c}
    {second : Record d} (separate : state.Separates first second) :
    state.Separates second first where
  symbols := fun id named also => separate.symbols id also named
  loops := fun id named also => separate.loops id also named

namespace Decode

variable {environment : Environment} {start middle last : State}

/-! ## The later record first -/

/-- What is given to link the later of two records first. -/
def laterFirst (sound : start.Sound) (early : start.Precedes middle)
    (late : middle.Precedes last) (ids : List UInt64) (loopIds : List Int32) : Replay where
  names := start.exchange middle last
  start := start
  imageStart := middle
  final := last
  ids := ids
  loopIds := loopIds
  onto := (State.newSince_exchange sound.keyed early late).onto
  builtin := fun builtin among =>
    (State.newSince_exchange sound.keyed early late).known _ _ (sound.builtins builtin among)
  kind := (State.newSince_exchange sound.keyed early late).kind
  bound := (State.newSince_exchange sound.keyed early late).bound
  settled := .inr fun _ _ unknown => early.unknown unknown
  symbol := fun _ _ kind bound _ unknown below =>
    State.exchange_symbol unknown (exchanged_later early.symbolCount below) kind bound
  node := fun _ below => exchanged_later early.nextNode below
  loop := fun _ below => exchanged_later early.nextLoop below
  apart := fun _ unknown _ => early.undeclared unknown

/-! ## The earlier record last -/

/-- What is given to link the earlier of two records last, in a state that was reached as the
last one was in the other order. -/
def earlierLast {other : State} (sound : start.Sound) (early : start.Precedes middle)
    (late : middle.Precedes last) (between : start.Precedes other) (ids : List UInt64)
    (loopIds : List Int32) {lateIds : List UInt64} {lateLoopIds : List Int32}
    (aligned : (laterFirst sound early late lateIds lateLoopIds).Aligned other last)
    (apart : ∀ id ∈ ids, start.symbols[id]? = none → other.symbols[id]? = none) : Replay where
  names := start.exchange middle last
  start := other
  imageStart := start
  final := middle
  ids := ids
  loopIds := loopIds
  onto := (State.newSince_exchange sound.keyed early late).onto
  builtin := (laterFirst sound early late lateIds lateLoopIds).builtin
  kind := (State.newSince_exchange sound.keyed early late).kind
  bound := (State.newSince_exchange sound.keyed early late).bound
  settled := .inr apart
  symbol := by
    intro count id kind bound named unknown below
    -- No symbol that the later record names was made by the earlier one.
    obtain ⟨-, made, own, image⟩ := aligned.counted fun _ _ new => early.unknown new
    apply State.exchange_symbol (between.unknown unknown)
    exact exchanged_earlier own image below
  node := by
    intro count below
    obtain ⟨made, own, image⟩ := aligned.nodes
    exact exchanged_earlier own image below
  loop := by
    intro count below
    obtain ⟨made, own, image⟩ := aligned.loops
    exact exchanged_earlier own image below
  apart := fun id unknown known => aligned.undeclared id unknown known

variable {c d : Category} {early : Record c} {late : Record d} {earlyContext : Context c}
  {lateContext : Context d} {earlyTree : Tree c.built} {lateTree : Tree d.built}

/-- The loops that a record does not name are those that were there before. -/
theorem lookup?_of_build {record : Record c} {context : Context c} {tree : Tree c.built}
    {state after : State} (keyed : state.Keyed)
    (run : build record context environment state = .ok tree after) {id : Int32}
    (unnamed : id ∉ record.loopIds) : after.loops.lookup? id = state.loops.lookup? id := by
  cases known : state.loops.lookup? id with
  | none => exact loops_of_build keyed run unnamed known
  | some node => exact (precedes_of_build run).registered id node known

/-- A symbol that one record names stays unknown when the other is linked. -/
theorem unknown_of_build (separate : start.Separates early late) (keyed : start.Keyed)
    (run : build early earlyContext environment start = .ok earlyTree middle) {id : UInt64}
    (named : id ∈ late.symbolIds) (unknown : start.symbols[id]? = none) :
    middle.symbols[id]? = none :=
  (symbols_of_build keyed run fun both => separate.symbols id both named unknown).trans unknown

/-- A loop that one record names stays unknown when the other is linked. -/
theorem free_of_build (separate : start.Separates early late) (keyed : start.Keyed)
    (run : build early earlyContext environment start = .ok earlyTree middle) {id : Int32}
    (named : id ∈ late.loopIds) (free : start.loops.lookup? id = none) :
    middle.loops.lookup? id = none :=
  (lookup?_of_build keyed run fun both => separate.loops id both named free).trans free

/-- The later of two records is linked first, in the state in which the earlier one began. -/
theorem later_first {request : Request} (sound : start.Sound) (ordered : start.loops.Ordered)
    (asks : request.Asks late lateContext) (older : lateContext.Older start)
    (separate : start.Separates early late)
    (first : build early earlyContext environment start = .ok earlyTree middle)
    (second : build late lateContext environment middle = .ok lateTree last) :
    ∃ again other, build late lateContext environment start = .ok again other ∧
      again.rename (start.exchange middle last) = lateTree ∧
      (laterFirst sound (precedes_of_build first) (precedes_of_build second) late.symbolIds
        late.loopIds).Aligned other last := by
  have keyed := sound.keyed
  have before := precedes_of_build first
  have throughout := before.trans (precedes_of_build second)
  have since := State.newSince_exchange keyed before (precedes_of_build second)
  let replay := laterFirst sound before (precedes_of_build second) late.symbolIds late.loopIds
  have aligned : replay.Aligned start middle := by
    apply replay.aligned_start
    · exact (performed_of_build keyed first).2.depth.symm
    · intro id _ symbol known
      calc
        last.symbols[id]? = some symbol := throughout.symbols id symbol known
        _ = some ((start.exchange middle last).symbol symbol) := by
          rw [since.known id symbol known]
    · intro id named unknown
      exact unknown_of_build separate keyed first named unknown
    · intro id _ node registered
      calc
        last.loops.lookup? id = some node := throughout.registered id node registered
        _ = some ((start.exchange middle last).loop node) := by
          rw [since.loops node (ordered.lookup?_lt registered)]
    · intro id named free
      exact free_of_build separate keyed first named free
  exact replay.build_again (older.rename asks since.nodes) (List.Subset.refl _)
    (List.Subset.refl _) aligned second

/-- The earlier of two records is linked last, in the state that the later one leaves. -/
theorem earlier_last {request : Request} {other : State} {again : Tree d.built}
    (sound : start.Sound) (ordered : start.loops.Ordered)
    (asks : request.Asks early earlyContext) (older : earlyContext.Older start)
    (separate : start.Separates early late)
    (first : build early earlyContext environment start = .ok earlyTree middle)
    (second : build late lateContext environment middle = .ok lateTree last)
    (run : build late lateContext environment start = .ok again other)
    (aligned : (laterFirst sound (precedes_of_build first) (precedes_of_build second)
      late.symbolIds late.loopIds).Aligned other last) :
    ∃ tree final, build early earlyContext environment other = .ok tree final ∧
      tree.rename (start.exchange middle last) = earlyTree ∧
      (earlierLast sound (precedes_of_build first) (precedes_of_build second)
        (precedes_of_build run) early.symbolIds early.loopIds aligned
        fun _ => unknown_of_build separate.symm sound.keyed run).Aligned final middle := by
  have keyed := sound.keyed
  have before := precedes_of_build first
  have between := precedes_of_build run
  have since := State.newSince_exchange keyed before (precedes_of_build second)
  let replay := earlierLast sound before (precedes_of_build second) between early.symbolIds
    early.loopIds aligned fun _ => unknown_of_build separate.symm keyed run
  have alignedLast : replay.Aligned other start := by
    apply replay.aligned_start
    · exact (performed_of_build keyed run).2.depth
    · -- The later record has made nothing known that the earlier one names.
      intro id named symbol after
      cases known : start.symbols[id]? with
      | none =>
          have unknown := unknown_of_build separate.symm keyed run named known
          cases after.symm.trans unknown
      | some found =>
          cases after.symm.trans (between.symbols id found known)
          calc
            middle.symbols[id]? = some symbol := before.symbols id symbol known
            _ = some ((start.exchange middle last).symbol symbol) := by
              rw [since.known id symbol known]
    · intro id _ unknown
      exact between.unknown unknown
    · intro id named node after
      cases registered : start.loops.lookup? id with
      | none =>
          have free := free_of_build separate.symm keyed run named registered
          cases after.symm.trans free
      | some found =>
          cases after.symm.trans (between.registered id found registered)
          calc
            middle.loops.lookup? id = some node := before.registered id node registered
            _ = some ((start.exchange middle last).loop node) := by
              rw [since.loops node (ordered.lookup?_lt registered)]
    · intro id _ free
      exact between.unregistered free
  exact replay.build_again (older.rename asks since.nodes) (List.Subset.refl _)
    (List.Subset.refl _) alignedLast first

/-! ## What both orders leave -/

/-- What is found in the one order is found in the other, under its new identity, if each of
two records that name it apart finds the same in both orders. -/
theorem found_exchanged {α : Type} {change : α → α} {named also : Prop}
    {start middle last other final : Option α}
    (unnamed : ¬ named → middle = start ∧ final = other)
    (notAlso : ¬ also → last = middle ∧ other = start)
    (early : named → middle = final.map change) (late : also → last = other.map change)
    (both : named → also → start ≠ none) (fixed : start.map change = start)
    (kept : ∀ found, start = some found → last = some found ∧ final = some found) :
    last = final.map change := by
  by_cases isNamed : named
  · by_cases isAlso : also
    · cases known : start with
      | none => exact absurd known (both isNamed isAlso)
      | some found =>
          rcases kept found known with ⟨rfl, rfl⟩
          rw [← known, fixed]
    · rw [(notAlso isAlso).1, early isNamed]
  · rw [(unnamed isNamed).2]
    by_cases isAlso : also
    · exact late isAlso
    · rw [(notAlso isAlso).1, (notAlso isAlso).2, (unnamed isNamed).1, fixed]

section Orders

variable {other final : State} {earlyAgain : Tree c.built} {lateAgain : Tree d.built}
  (sound : start.Sound) (separate : start.Separates early late)
  (first : build early earlyContext environment start = .ok earlyTree middle)
  (second : build late lateContext environment middle = .ok lateTree last)
  (run : build late lateContext environment start = .ok lateAgain other)
  (rerun : build early earlyContext environment other = .ok earlyAgain final)
  (lateAligned : (laterFirst sound (precedes_of_build first) (precedes_of_build second)
    late.symbolIds late.loopIds).Aligned other last)
  (earlyAligned : (earlierLast sound (precedes_of_build first) (precedes_of_build second)
    (precedes_of_build run) early.symbolIds early.loopIds lateAligned
    fun _ => unknown_of_build separate.symm sound.keyed run).Aligned final middle)

include earlyAligned

/-- Both orders begin the same loops. -/
theorem loops_exchanged (earlyFootprint : middle.Footprint last)
    (lateFootprint : other.Footprint final) {node : Nat} (new : start.loops.nextNode ≤ node) :
    last.loops.node? ((start.exchange middle last).loop node) =
      (final.loops.node? node).map (·.rename (start.exchange middle last)) := by
  have before := precedes_of_build first
  have after := precedes_of_build second
  rcases lateAligned.loops with ⟨made, own, image⟩
  rcases earlyAligned.loops with ⟨others, ownLast, imageLast⟩
  change other.loops.nextNode = start.loops.nextNode + made at own
  change last.loops.nextNode = middle.loops.nextNode + made at image
  change final.loops.nextNode = other.loops.nextNode + others at ownLast
  change middle.loops.nextNode = start.loops.nextNode + others at imageLast
  rcases Nat.exists_eq_add_of_le new with ⟨count, rfl⟩
  by_cases byLate : count < made
  · -- The loop is one of the later record.
    have number : (start.exchange middle last).loop (start.loops.nextNode + count) =
        middle.loops.nextNode + count := exchanged_later before.nextLoop (by omega)
    rw [number, lateFootprint.loops _ (by omega)]
    exact lateAligned.loopNodes count
  · rcases Nat.exists_eq_add_of_le (Nat.not_lt.mp byLate) with ⟨rest, rfl⟩
    rw [← Nat.add_assoc]
    by_cases byEarly : rest < others
    · have number : (start.exchange middle last).loop (start.loops.nextNode + made + rest) =
          start.loops.nextNode + rest := exchanged_earlier rfl image (by omega)
      rw [number, earlyFootprint.loops _ (by omega), ← own]
      exact earlyAligned.loopNodes rest
    · have number : (start.exchange middle last).loop (start.loops.nextNode + made + rest) = _ :=
        exchanged_of_le before.nextLoop after.nextLoop (by omega)
      rw [number, LoopTable.node?_eq_none (by omega), LoopTable.node?_eq_none (by omega)]
      rfl

include rerun

/-- Both orders leave the same symbols. -/
theorem symbols_exchanged (id : UInt64) :
    last.symbols[id]? = final.symbols[id]?.map (start.exchange middle last).symbol := by
  have keyed := sound.keyed
  have since := State.newSince_exchange keyed (precedes_of_build first) (precedes_of_build second)
  refine found_exchanged (fun unnamed => ?_) (fun unnamed => ?_) earlyAligned.symbols_eq
    lateAligned.symbols_eq (separate.symbols id) (since.map_symbol id) fun symbol known => ?_
  · exact ⟨symbols_of_build keyed first unnamed,
      symbols_of_build (performed_of_build keyed run).2.keyed rerun unnamed⟩
  · exact ⟨symbols_of_build (performed_of_build keyed first).2.keyed second unnamed,
      symbols_of_build keyed run unnamed⟩
  · exact ⟨((precedes_of_build first).trans (precedes_of_build second)).symbols id symbol known,
      ((precedes_of_build run).trans (precedes_of_build rerun)).symbols id symbol known⟩

/-- Both orders leave the same loops registered. -/
theorem registered_exchanged (ordered : start.loops.Ordered) (id : Int32) :
    last.loops.lookup? id =
      (final.loops.lookup? id).map (start.exchange middle last).loop := by
  have keyed := sound.keyed
  have since := State.newSince_exchange keyed (precedes_of_build first) (precedes_of_build second)
  refine found_exchanged (fun unnamed => ?_) (fun unnamed => ?_) earlyAligned.lookup?_eq
    lateAligned.lookup?_eq (separate.loops id) (since.map_loop ordered id) fun node known => ?_
  · exact ⟨lookup?_of_build keyed first unnamed,
      lookup?_of_build (performed_of_build keyed run).2.keyed rerun unnamed⟩
  · exact ⟨lookup?_of_build (performed_of_build keyed first).2.keyed second unnamed,
      lookup?_of_build keyed run unnamed⟩
  · exact ⟨((precedes_of_build first).trans (precedes_of_build second)).registered id node known,
      ((precedes_of_build run).trans (precedes_of_build rerun)).registered id node known⟩

/-- Both orders make the same declarations known. -/
theorem declarations_exchanged {id : DescriptorId} (unknown : start.declarations[id]? = none) :
    last.declarations[id]? =
      final.declarations[id]?.map (Tree.rename (start.exchange middle last)) := by
  cases known : middle.declarations[id]? with
  | none =>
      -- The earlier record does not declare it.
      refine (lateAligned.declarations id unknown known).trans ?_
      cases declared : other.declarations[id]? with
      | none =>
          have absent := earlyAligned.declarations id declared unknown
          rw [show middle.declarations[id]? = none from known] at absent
          rw [Option.map_eq_none_iff.mp absent.symm]
          rfl
      | some declaration =>
          rw [(precedes_of_build rerun).declarations id declaration declared]
          rfl
  | some declaration =>
      have absent := lateAligned.undeclared id unknown fun none => by cases none.symm.trans known
      rw [(precedes_of_build second).declarations id declaration known, ← known]
      exact earlyAligned.declarations id absent unknown

end Orders

/-- Two records that have in common only what the session knew before can be linked in either
order.  If they are linked one after the other, then they are linked in the other order as
well, and give the same trees and leave the same maps, up to the identities of the symbols,
declarations and loops that were made. -/
theorem either_order {request otherRequest : Request} (reachable : Reachable environment start)
    (earlyAsks : request.Asks early earlyContext) (lateAsks : otherRequest.Asks late lateContext)
    (earlyOlder : earlyContext.Older start) (lateOlder : lateContext.Older start)
    (separate : start.Separates early late)
    (first : build early earlyContext environment start = .ok earlyTree middle)
    (second : build late lateContext environment middle = .ok lateTree last) :
    ∃ names lateAgain other earlyAgain final,
      build late lateContext environment start = .ok lateAgain other ∧
      build early earlyContext environment other = .ok earlyAgain final ∧
      names.NewSince start ∧ earlyAgain.rename names = earlyTree ∧
      lateAgain.rename names = lateTree ∧ start.SameUpTo names final last := by
  have sound := reachable.settled.sound
  have ordered := reachable.ordered
  rcases later_first sound ordered lateAsks lateOlder separate first second with
    ⟨lateAgain, other, run, sameLate, lateAligned⟩
  rcases earlier_last sound ordered earlyAsks earlyOlder separate first second run lateAligned with
    ⟨earlyAgain, final, rerun, sameEarly, earlyAligned⟩
  have toMiddle := footprint_of_build earlyAsks sound first
  have toLast := footprint_of_build lateAsks toMiddle.sound second
  have toOther := footprint_of_build lateAsks sound run
  have toFinal := footprint_of_build earlyAsks toOther.sound rerun
  have throughMiddle := toMiddle.trans toLast
  have throughOther := toOther.trans toFinal
  refine ⟨start.exchange middle last, lateAgain, other, earlyAgain, final, run, rerun,
    State.newSince_exchange sound.keyed (precedes_of_build first) (precedes_of_build second),
    sameEarly, sameLate, ?_⟩
  exact
    { symbols :=
        symbols_exchanged sound separate first second run rerun lateAligned earlyAligned
      registered :=
        registered_exchanged sound separate first second run rerun lateAligned earlyAligned ordered
      loops := fun _ =>
        loops_exchanged sound separate first second run lateAligned earlyAligned toLast toFinal
      oldLoops := fun node old => ⟨throughOther.loops node old, throughMiddle.loops node old⟩
      declarations := fun _ =>
        declarations_exchanged sound separate first second run rerun lateAligned earlyAligned
      oldDeclarations := fun id declaration known =>
        ⟨throughOther.grown.declarations id declaration known,
          throughMiddle.grown.declarations id declaration known⟩ }

end Decode

/-- The record of a variable that begins with the value of a loop. -/
def Record.loopVariable : Record .declaration :=
  .declarationNode .zero "DEFINED" .nil "" <|
    .variableDeclarator ⟨.symbol .localVariable, ⟨1001, false⟩, .none⟩ "y"
      (.dynamicType .nil .invariant) ⟨false, false, false⟩ (.some reusedLoop)

/-- Two variables have nothing in common, so each can be linked before the other. -/
theorem Decode.either_order_variables :
    ∃ (tree again otherTree otherAgain : Tree .declaration) (names : Renaming)
      (middle last other final : State),
      build Record.localVariable Parent.none ⟨.ofVariable, {}⟩ .initial = .ok tree middle ∧
      build Record.loopVariable Parent.none ⟨.ofVariable, {}⟩ middle = .ok otherTree last ∧
      build Record.loopVariable Parent.none ⟨.ofVariable, {}⟩ .initial = .ok otherAgain other ∧
      build Record.localVariable Parent.none ⟨.ofVariable, {}⟩ other = .ok again final ∧
      names.NewSince .initial ∧ again.rename names = tree ∧
      otherAgain.rename names = otherTree ∧ State.initial.SameUpTo names final last := by
  have evaluated :
      (match build Record.localVariable Parent.none ⟨.ofVariable, {}⟩ .initial with
        | .ok _ middle =>
            match build Record.loopVariable Parent.none ⟨.ofVariable, {}⟩ middle with
            | .ok _ _ => true
            | .error _ _ => false
        | .error _ _ => false) = true := by
    decide +kernel
  split at evaluated
  case h_2 => cases evaluated
  rename_i tree middle first
  split at evaluated
  case h_2 => cases evaluated
  rename_i otherTree last second
  have origin : Record.originCheck "DEFINED" = [] := rfl
  have separate : State.initial.Separates Record.localVariable Record.loopVariable := by
    constructor <;>
      simp [Record.symbolIds, Record.loopIds, Record.symbolRecords, Record.actions_eq,
        Record.localVariable, Record.loopVariable, Record.reusedLoop, Record.layout, Item.actions,
        Item.use, Item.steps, LinkStep.used?, LinkStep.loopId?, origin, Record.declareStep,
        Record.declaredSymbol?, Record.constantCheck, RecordedConstant.value?]
  rcases either_order .start (.declaration _ .none) (.declaration _ .none) trivial trivial separate
    first second with ⟨names, otherAgain, other, again, final, run, rerun, orders⟩
  exact ⟨tree, again, otherTree, otherAgain, names, middle, last, other, final, first, second,
    run, rerun, orders⟩

end IrLink
