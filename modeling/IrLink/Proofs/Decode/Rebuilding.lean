import IrLink.Proofs.Decode.Carried
import IrLink.Proofs.Decode.Fresh
import IrLink.Proofs.Decode.Registration
import IrLink.Proofs.Decode.Replay

/-!
# Linking the same record twice

A record that was linked is linked again, right after.  Nothing that the session knows
changes: all symbols are known by then, and all loops that are jumped to are registered.
Where the first time made declarations known with a real descriptor, the second fails at the
first of them.  Otherwise it gives the same tree, with new declarations and loops
(`Decode.rebuilding`).

The declarations that linking makes known are those of the tree and those of the recorded
types that it leaves out.  So linking again can fail although the tree has no declaration.
-/

namespace IrLink

/-! ## What a record makes known -/

/-- The real descriptors of the declarations that a record makes known, in order, where its
symbols are known. -/
def Record.registered {c : Category} (state : State) (record : Record c) : List Descriptor :=
  record.effects.filterMap (LinkStep.registered? state.symbols)

/-- A step registers a declaration if it makes one known that is described. -/
theorem LinkStep.isSome_registered? (state : State) (step : LinkStep) :
    (step.registered? state.symbols).isSome = step.declares state.describes := by
  cases step with
  | declare id =>
      rw [registered?, declares, State.describes]
      cases state.symbols[id]? with
      | none => rfl
      | some symbol =>
          rw [Option.bind_some, Option.any_some]
          cases symbol.descriptor.isPlaceholder <;> rfl
  | _ => rfl

/-- Steps without effects register no declaration. -/
theorem LinkStep.filterMap_registered?_effects (symbols : Std.TreeMap UInt64 Symbol)
    (step : LinkStep) :
    step.effects.filterMap (registered? symbols) = (step.registered? symbols).toList := by
  cases step with
  | declare id =>
      rw [effects, List.filterMap_cons]
      cases registered? symbols (declare id) <;> rfl
  | _ => rfl

namespace Record

variable {c : Category} {state : State}

/-- What a record registers is what its steps register. -/
theorem registered_eq_trace (record : Record c) (depth : Nat) :
    record.registered state =
      (record.trace depth).filterMap (LinkStep.registered? state.symbols) := by
  rw [registered, effects_eq_trace record depth, List.filterMap_flatMap,
    List.flatMap_congr fun step _ => step.filterMap_registered?_effects state.symbols]
  exact (List.filterMap_eq_flatMap_toList _ _).symm

theorem length_registered (record : Record c) :
    (record.registered state).length = record.effects.countP (·.declares state.describes) := by
  rw [registered, List.length_filterMap_eq_countP]
  exact List.countP_congr fun step _ => by rw [step.isSome_registered?]

/-- A record registers nothing if its tree keeps nothing that is described, and what is left
out registers nothing. -/
theorem registered_eq_nil_iff (record : Record c) :
    record.registered state = [] ↔
      record.kept state.describes = 0 ∧ ∀ type ∈ record.leftOut, type.registered state = [] := by
  have leftOut : (record.leftOut.flatMap effects).countP (·.declares state.describes) = 0 ↔
      ∀ type ∈ record.leftOut, type.registered state = [] := by
    rw [List.countP_flatMap, List.sum_eq_zero_iff_forall_eq_nat, List.forall_mem_map]
    refine forall_congr' fun type => forall_congr' fun _ => ?_
    rw [← List.length_eq_zero_iff, length_registered]
    rfl
  rw [← List.length_eq_zero_iff, length_registered, count_effects, Nat.add_eq_zero_iff, leftOut]

end Record

/-! ## Sessions that are left as they are -/

/-- The maps of a session are as they were. -/
structure State.SameMaps (before after : State) : Prop where
  symbols : after.symbols = before.symbols
  declarations : ∀ id : DescriptorId, after.declarations[id]? = before.declarations[id]?
  registered : ∀ id, after.loops.lookup? id = before.loops.lookup? id
  /-- The loops themselves are as they were. -/
  loops : ∀ node, node < before.loops.nextNode →
    after.loops.node? node = before.loops.node? node

/-- What is seen of a session is as before if its maps only grew and no more is known. -/
theorem State.Footprint.sameMaps {before after : State} (footprint : before.Footprint after)
    (same : after.view = before.view) : before.SameMaps after where
  symbols := congrArg View.symbols same
  declarations := fun id => by
    have contains : after.declarations.contains id = before.declarations.contains id :=
      congrFun (congrArg View.declared same) id
    cases known : before.declarations[id]? with
    | some declaration => exact footprint.grown.declarations id declaration known
    | none =>
        rw [Std.TreeMap.contains_eq_isSome_getElem?, Std.TreeMap.contains_eq_isSome_getElem?,
          known] at contains
        exact Option.isNone_iff_eq_none.mp (Option.isSome_eq_false_iff.mp contains)
  registered := fun id => by
    have contains : (after.loops.lookup? id).isSome = (before.loops.lookup? id).isSome := by
      rw [← view_loops, ← view_loops, same]
    cases known : before.loops.lookup? id with
    | some node => exact footprint.grown.registered id node known
    | none =>
        rw [known] at contains
        exact Option.isNone_iff_eq_none.mp (Option.isSome_eq_false_iff.mp contains)
  loops := footprint.loops

namespace Decode

variable {environment : Environment} {request : Request} {c : Category} {record : Record c}
  {context : Context c} {tree : Tree c.built} {state after : State}

/-! ## What linking a record does -/

/-- What becomes known when a record is linked is what it registers. -/
theorem declared_of_build (keyed : state.Keyed)
    (run : build record context environment state = .ok tree after) (id : DescriptorId) :
    after.declarations.contains id = true ↔ state.declarations.contains id = true ∨
      ∃ descriptor ∈ record.registered after, descriptor.id = id := by
  rw [record.registered_eq_trace state.depth]
  exact declared_of_perform (performed_of_build keyed run).1
    ((record.announced_trace _).settling _) (.refl _)

/-- What is left of a session when a record was linked that it was asked for. -/
theorem footprint_of_build (asks : request.Asks record context) (sound : state.Sound)
    (run : build record context environment state = .ok tree after) :
    state.Footprint after := by
  have footprint := request.footprint environment sound
  rwa [asks.after_eq, run] at footprint

/-- The marks of a tree that was asked for are linked, and it keeps the declarations of its
record. -/
theorem linked_of_build (asks : request.Asks record context) (sound : state.Sound)
    (run : build record context environment state = .ok tree after) :
    (∀ mark ∈ tree.ownedMarks, mark.Holds environment after) ∧
      tree.declared.countP Tree.isDescribed = record.kept after.describes := by
  have footprint := footprint_of_build asks sound run
  have given : context.Holds (·.Holds environment after) := by
    cases asks <;> trivial
  have tallied := ((build_tallied (Settles.rules footprint.sound) record context
    fun _ : True => given).ok trivial sound (List.forall_mem_nil _) run (.refl after [])).1
  have tally : Tally (·.Holds environment after) after.describes tree.ownedMarks
      (record.kept after.describes) := by
    cases asks <;> exact tallied.tally
  refine ⟨tally.holds, ?_⟩
  rw [← tally.number, Mark.countP_declares]
  · exact List.countP_congr fun declaration _ => by rw [Tree.isSome_backingDescriptor?]
  · exact fun declaration among symbol => Tree.declaredSymbol_known tally.holds among

/-! ## The second time -/

/-- The steps of a record that was linked change nothing when they are carried out again, and
fail at the first declaration that the record has made known. -/
theorem performed_again (keyed : state.Keyed)
    (run : build record context environment state = .ok tree after) :
    perform environment ([Item.part record].flatMap (Item.trace after.depth)) after.view =
      LinkStep.again after.view (record.registered after) := by
  obtain ⟨performed, kept⟩ := performed_of_build keyed run
  have settling : Settling environment state.view (record.trace state.depth) :=
    (record.announced_trace state.depth).settling state.view
  rw [List.flatMap_singleton, record.registered_eq_trace after.depth, kept.depth]
  exact perform_again performed settling (.refl after.view)

/-- A record that has made a declaration known can not be linked again. -/
theorem build_again_fails (keyed : state.Keyed)
    (run : build record context environment state = .ok tree after)
    {descriptor : Descriptor} {rest : List Descriptor}
    (registered : record.registered after = descriptor :: rest) :
    ∃ last, build record context environment after =
      .error (.duplicateDeclaration descriptor) last := by
  have again := performed_again keyed run
  rw [registered] at again
  have keyedAfter := (performed_of_build keyed run).2.keyed
  obtain ⟨last, fails, -⟩ := ((build_follows record context).error_iff keyedAfter).mpr again
  exact ⟨last, fails⟩

/-- Linking a record again changes nothing that is seen. -/
theorem view_build_again (keyed : state.Keyed)
    (run : build record context environment state = .ok tree after) :
    (finalState (build record context environment after)).view = after.view := by
  have keyedAfter := (performed_of_build keyed run).2.keyed
  rw [(build_follows record context).view_finalState keyedAfter, performed_again keyed run]
  cases record.registered after with
  | nil => rfl
  | cons descriptor rest => rfl

end Decode

/-! ## New identities -/

/-- A loop that is registered was begun. -/
theorem LoopTable.Ordered.lookup?_lt {table : LoopTable} (ordered : table.Ordered) {id : Int32}
    {node : Nat} (registered : table.lookup? id = some node) : node < table.nextNode := by
  rw [← length_ids]
  exact (List.getElem?_eq_some_iff.mp (ordered.lookup?_eq_some_iff.mp registered).1).1

/-- The renaming to what was numbered after one state of what is numbered after another. -/
def State.back (early late : State) : Renaming where
  symbol := id
  node := fun node =>
    if node < late.nextNode then node else node - (late.nextNode - early.nextNode)
  loop := fun node =>
    if node < late.loops.nextNode then node
    else node - (late.loops.nextNode - early.loops.nextNode)

namespace State

variable {early late : State}

/-- What is numbered again was numbered before. -/
theorem back_reaches {first last : Nat} (node : Nat) :
    ∃ number, (if number < last then number else number - (last - first)) = node := by
  by_cases below : node < last
  · exact ⟨node, if_pos below⟩
  · refine ⟨node + (last - first), ?_⟩
    rw [if_neg (by omega), Nat.add_sub_cancel]

instance : (early.back late).Onto where
  symbol := Function.surjective_id
  node := back_reaches
  loop := back_reaches

theorem back_add {first last : Nat} (ordered : first ≤ last) (count : Nat) :
    (if last + count < last then last + count else last + count - (last - first)) =
      first + count := by
  rw [if_neg (Nat.not_lt.mpr (Nat.le_add_right _ _))]
  omega

end State

/-- What a declaration belongs to was there before. -/
def Context.Older (state : State) : {c : Category} → Context c → Prop
  | .declaration, .declaration node => node < state.nextNode
  | _, _ => True

/-- What was there before keeps its identity. -/
theorem Context.Older.rename {request : Request} {c : Category} {record : Record c}
    {context : Context c} {state : State} {names : Renaming}
    (asks : request.Asks record context) (older : context.Older state)
    (fixed : ∀ node, node < state.nextNode → names.node node = node) :
    context.rename names = context := by
  cases asks with
  | declaration record parent =>
      cases parent with
      | declaration node => exact congrArg Parent.declaration (fixed node older)
      | _ => rfl
  | _ => rfl

/-- A tree that differs from another one in its declarations and loops only, which are new
since a later state.  Its jumps go to loops that were there before. -/
structure Tree.Renews {c : Category} (tree : Tree c) (early late : State) (other : Tree c) :
    Prop where
  same : other.rename (early.back late) = tree
  declarations : ∀ declaration ∈ other.declarationNodes, late.nextNode ≤ declaration.node
  loops : ∀ node ∈ other.loopNodes, late.loops.nextNode ≤ node
  jumps : ∀ jump ∈ other.jumps, jump.target < late.loops.nextNode

namespace Decode

variable {environment : Environment} {request : Request} {c : Category} {record : Record c}
  {context : Context c} {tree : Tree c.built} {state after : State}

/-- A session that was asked for a record is in a reachable state. -/
theorem reachable_of_build (reachable : Reachable environment state)
    (asks : request.Asks record context)
    (run : build record context environment state = .ok tree after) :
    Reachable environment after := by
  have next := reachable.step request
  rw [asks.after_eq, run] at next
  exact next

/-- Linking a record again leaves the maps of the session as they were. -/
theorem sameMaps_of_build (reachable : Reachable environment state)
    (asks : request.Asks record context)
    (run : build record context environment state = .ok tree after) :
    after.SameMaps (finalState (build record context environment after)) := by
  have footprint := request.footprint environment
    (reachable_of_build reachable asks run).settled.sound
  rw [asks.after_eq] at footprint
  exact footprint.sameMaps (view_build_again reachable.settled.sound.keyed run)

/-- What is given to link a record again that has made nothing known. -/
def rebuild (keyed : state.Keyed)
    (run : build record context environment state = .ok tree after)
    (nothing : record.registered after = []) : Replay where
  names := state.back after
  start := after
  imageStart := state
  final := after
  ids := record.symbolIds
  loopIds := record.loopIds
  onto := inferInstance
  builtin := fun _ _ => rfl
  kind := fun _ => rfl
  bound := fun _ => rfl
  settled := .inl fun _ named => known_of_build keyed run named
  symbol := fun _ _ _ _ named unknown => absurd unknown (known_of_build keyed run named)
  node := fun count _ => State.back_add (precedes_of_build run).nextNode count
  loop := fun count _ => State.back_add (precedes_of_build run).nextLoop count
  apart := fun id unknown known => by
    have declared := declared_of_build keyed run id
    simp only [nothing, List.not_mem_nil, false_and, exists_false, or_false,
      Std.TreeMap.contains_eq_isSome_getElem?, Option.isSome_iff_ne_none] at declared
    exact absurd unknown (declared.mp known)

/-- A record that has made nothing known is linked again in the same way. -/
theorem renews_of_build (reachable : Reachable environment state)
    (asks : request.Asks record context) (older : context.Older state)
    (run : build record context environment state = .ok tree after)
    (nothing : record.registered after = []) :
    ∃ other last, build record context environment after = .ok other last ∧
      tree.Renews state after other := by
  have keyed := reachable.settled.sound.keyed
  have afterReachable := reachable_of_build reachable asks run
  have precedes := precedes_of_build run
  let replay := rebuild keyed run nothing
  have aligned : replay.Aligned after state := by
    apply replay.aligned_start
    · exact (performed_of_build keyed run).2.depth
    · intro id _ symbol known
      exact known
    · intro id _ unknown
      exact precedes.unknown unknown
    · intro id _ node registered
      -- The loop was begun by now, so it keeps its number.
      have fixed : replay.names.loop node = node :=
        if_pos (afterReachable.ordered.lookup?_lt registered)
      rw [fixed]
      exact registered
    · intro id _ free
      exact precedes.unregistered free
  have fixed : context.rename replay.names = context :=
    older.rename asks fun node below => if_pos (Nat.lt_of_lt_of_le below precedes.nextNode)
  obtain ⟨other, last, second, same, -⟩ :=
    replay.build_again fixed (List.Subset.refl _) (List.Subset.refl _) aligned run
  refine ⟨other, last, second, same, newNode_le_of_build asks second,
    newLoop_le_of_build asks second, ?_⟩
  intro jump among
  have marked := (linked_of_build asks afterReachable.settled.sound second).1 _
    (List.mem_append_right _ (Tree.marked_of_mem_jumps among))
  have maps := sameMaps_of_build reachable asks run
  rw [second] at maps
  exact afterReachable.ordered.lookup?_lt ((maps.registered _).symm.trans marked)

/-- A record makes nothing known if its tree declares nothing with a real descriptor, and
neither do the recorded types that the tree leaves out. -/
theorem registered_eq_nil_iff_of_build (asks : request.Asks record context)
    (sound : state.Sound) (run : build record context environment state = .ok tree after) :
    record.registered after = [] ↔
      (∀ declaration ∈ tree.declarationNodes, declaration ∉ tree.backingFields →
        declaration.isDescribed = false) ∧
      ∀ type ∈ record.leftOut, type.registered after = [] := by
  rcases linked_of_build asks sound run with ⟨marked, count⟩
  rw [record.registered_eq_nil_iff, ← count, List.countP_eq_zero]
  refine and_congr_left fun _ => ⟨fun none declaration among stores => ?_,
    fun none declaration declared described => ?_⟩
  · have declared := List.mem_append.mp (tree.declared_perm.mem_iff.mp among)
    exact Bool.eq_false_iff.mpr (none declaration (declared.resolve_right stores))
  · have registered := Tree.declared_known marked declared
      (Tree.backingDescriptor?_of_isDescribed described)
    have among := tree.declared_perm.mem_iff.mpr (List.mem_append_left _ declared)
    rw [none declaration among fun stores =>
      Tree.backingFields_unknown marked stores registered rfl] at described
    cases described

/-- Linking a record a second time, right after it was linked, leaves the maps of the session
as they were.  If neither the tree nor the recorded types that it leaves out declare anything
with a real descriptor, it gives the same tree again, with new declarations and loops.
Otherwise it fails, as the first of the descriptors that the record has made known has a
declaration already. -/
theorem rebuilding (reachable : Reachable environment state)
    (asks : request.Asks record context) (older : context.Older state)
    (run : build record context environment state = .ok tree after) :
    after.SameMaps (finalState (build record context environment after)) ∧
    (record.registered after = [] ↔
      (∀ declaration ∈ tree.declarationNodes, declaration ∉ tree.backingFields →
        declaration.isDescribed = false) ∧
      ∀ type ∈ record.leftOut, type.registered after = []) ∧
    (record.registered after = [] → ∃ other last,
      build record context environment after = .ok other last ∧
        tree.Renews state after other) ∧
    (∀ descriptor rest, record.registered after = descriptor :: rest → ∃ last,
      build record context environment after = .error (.duplicateDeclaration descriptor) last) ∧
    ∀ id : DescriptorId, after.declarations.contains id = true ↔
      state.declarations.contains id = true ∨
        ∃ descriptor ∈ record.registered after, descriptor.id = id :=
  have sound := reachable.settled.sound
  ⟨sameMaps_of_build reachable asks run, registered_eq_nil_iff_of_build asks sound run,
    renews_of_build reachable asks older run, fun _ _ => build_again_fails sound.keyed run,
    declared_of_build sound.keyed run⟩

/-- A loop that is entered a second time is a new one, and its body still goes on with the
first. -/
theorem rebuilding_reusedLoop :
    ∃ tree after other last,
      build Record.reusedLoop () ⟨⟨"", .empty, [], []⟩, {}⟩ .initial = .ok tree after ∧
        build Record.reusedLoop () ⟨⟨"", .empty, [], []⟩, {}⟩ after = .ok other last ∧
        tree.Renews .initial after other := by
  have evaluated :
      (match build Record.reusedLoop () ⟨⟨"", .empty, [], []⟩, {}⟩ .initial with
        | .ok _ _ => true
        | .error _ _ => false) = true := by
    decide +kernel
  split at evaluated
  case h_2 => cases evaluated
  rename_i tree after run
  have nothing : Record.reusedLoop.registered after = [] := by
    simp [Record.reusedLoop, Record.registered, Record.effects_eq, Record.layout, Item.effects,
      LinkStep.effects, LinkStep.registered?, Record.constantCheck, Item.steps,
      RecordedConstant.value?]
  rcases (rebuilding .start (.expression _) trivial run).2.2.1 nothing with
    ⟨other, last, second, renews⟩
  exact ⟨tree, after, other, last, run, second, renews⟩

/-- The tree of a throw declares nothing.  Linking it again fails all the same, since the type
that was recorded for it, which its tree leaves out, declares something. -/
theorem rebuild_annotatedThrow :
    ∃ tree after descriptor last,
      build Record.annotatedThrow () ⟨.ofVariable, {}⟩ .initial = .ok tree after ∧
        tree.declarationNodes = [] ∧
        build Record.annotatedThrow () ⟨.ofVariable, {}⟩ after =
          .error (.duplicateDeclaration descriptor) last := by
  have evaluated :
      (match build Record.annotatedThrow () ⟨.ofVariable, {}⟩ .initial with
        | .ok tree after => tree.declarationNodes.isEmpty &&
            match build Record.annotatedThrow () ⟨.ofVariable, {}⟩ after with
            | .error (.duplicateDeclaration _) _ => true
            | _ => false
        | .error _ _ => false) = true := by
    decide +kernel
  split at evaluated
  · rename_i tree after run
    rw [Bool.and_eq_true, List.isEmpty_iff] at evaluated
    rcases evaluated with ⟨none, second⟩
    split at second
    · rename_i descriptor last fails
      exact ⟨tree, after, descriptor, last, run, none, fails⟩
    · cases second
  · cases evaluated

end Decode

end IrLink
