import IrLink.Proofs.Decode.Fresh
import IrLink.Proofs.Decode.Replay
import IrLink.Proofs.Decode.Walk

/-!
# How loops get their contents

A loop is begun as an empty shell.  If its body and its condition are linked, the shell
gets what they became, once and for all (`Filled`); if one of them fails, everything that
is underway fails with the same error, and the shell stays empty (`Abandoned`).  Whatever
the decoder does accounts for the loops that it begins in this way, and leaves all earlier
ones as they are (`Accounting.linking`).
-/

namespace IrLink

/-! ## Loops and their records -/

/-- A recorded loop, with the range and the linked type of its expression. -/
structure LoopRecord where
  kind : LoopKind
  id : Int32
  label : Option String
  condition : Record .expression
  body : Record (.option .expression)
  range : Range
  type : Tree .type

namespace LoopRecord

/-- The record of the loop itself. -/
def record (loop : LoopRecord) : Record .operation :=
  .loop loop.kind loop.id loop.label loop.condition loop.body

/-- The loop without its contents. -/
def shell (loop : LoopRecord) : LoopNode :=
  { id := loop.id, kind := loop.kind, range := loop.range, type := loop.type }

/-- The loop with its contents. -/
def filled (loop : LoopRecord) (contents : LoopContents) : LoopNode :=
  { loop.shell with contents := some contents }

/-- Link what the loop gets after its shell was made. -/
def contents (loop : LoopRecord) : Decode LoopContents := do
  let body ← Decode.build loop.body ()
  let condition ← Decode.build loop.condition ()
  return ⟨loop.label, body, condition⟩

/-- Linking a loop is beginning it and linking its contents. -/
theorem build_eq (loop : LoopRecord) :
    @Decode.build .operation loop.record (loop.range, loop.type) = (do
      let made ← Decode.looping loop.shell loop.contents
      return .expressionNode loop.range loop.type
        (.loop made.1 loop.kind loop.id loop.label made.2.body made.2.condition)) :=
  Decode.build_loop ..

end LoopRecord

namespace Decode

variable {α β : Type} {environment : Environment}
  {Covers : {c : Category} → Record c → Prop}

/-! ## What becomes of a loop -/

/-- Between two states a loop was begun with a number, its contents were linked while the
shell stayed empty, and it has had them since. -/
inductive Filled (environment : Environment) (Covers : {c : Category} → Record c → Prop)
    (before after : State) : Nat → LoopNode → Prop
  | intro (loop : LoopRecord) {start middle : State} {contents : LoopContents}
      (covered : Covers loop.record) (begins : before.Precedes start)
      (links : loop.contents environment (start.begun loop.shell) = .ok contents middle)
      (empty : middle.loops.node? start.loops.nextNode = some loop.shell)
      (ends : (middle.filled start.loops.nextNode contents).Precedes after)
      (stays : after.loops.node? start.loops.nextNode = some (loop.filled contents)) :
      Filled environment Covers before after start.loops.nextNode (loop.filled contents)

/-- Since a state a loop was begun with a number, and linking its own body or condition
failed and ended there, apart from the nesting. -/
inductive Abandoned (environment : Environment) (Covers : {c : Category} → Record c → Prop)
    (before after : State) (error : DecodeError) : Nat → Prop
  | intro (loop : LoopRecord) {start : State} {depth : Nat} (covered : Covers loop.record)
      (begins : before.Precedes start)
      (fails : loop.contents environment (start.begun loop.shell) =
        .error error { after with depth }) :
      Abandoned environment Covers before after error start.loops.nextNode

section Fates

variable {early before after late : State} {node : Nat} {loop : LoopNode}
  {error : DecodeError}

theorem Filled.node? (filled : Filled environment Covers before after node loop) :
    after.loops.node? node = some loop ∧ loop.isPopulated = true := by
  cases filled with
  | intro loop covered begins links empty ends stays => exact ⟨stays, rfl⟩

/-- A loop that was filled between two states was filled between an earlier and a later one. -/
theorem Filled.mono (filled : Filled environment Covers before after node loop)
    (earlier : early.Precedes before) (later : after.Precedes late)
    (same : late.loops.node? node = after.loops.node? node) :
    Filled environment Covers early late node loop := by
  cases filled with
  | intro loop covered begins links empty ends stays =>
      exact .intro loop covered (earlier.trans begins) links empty (ends.trans later)
        (same.trans stays)

/-- The nesting does not matter. -/
theorem Filled.ofDepth {inner : Nat} (outer : Nat)
    (filled : Filled environment Covers { before with depth := inner } after node loop) :
    Filled environment Covers before { after with depth := outer } node loop := by
  cases filled with
  | intro loop covered begins links empty ends stays =>
      exact .intro loop covered { begins with } links empty { ends with } stays

theorem Abandoned.since (abandoned : Abandoned environment Covers before after error node)
    (earlier : early.Precedes before) :
    Abandoned environment Covers early after error node := by
  cases abandoned with
  | intro loop covered begins fails =>
      exact .intro loop covered (earlier.trans begins) fails

theorem Abandoned.ofDepth {inner : Nat} (outer : Nat)
    (abandoned : Abandoned environment Covers { before with depth := inner } after error node) :
    Abandoned environment Covers before { after with depth := outer } error node := by
  cases abandoned with
  | intro loop covered begins fails => exact .intro loop covered { begins with } fails

end Fates

/-! ## Computations account for their loops -/

/-- What a computation does to loops: it leaves the earlier ones as they are, and of those
that it begins some are filled; if it fails, others are abandoned for the same reason. -/
structure Accounts (environment : Environment) (Covers : {c : Category} → Record c → Prop)
    (before : State) (ends : EStateM.Result DecodeError State α) : Prop where
  precedes : before.Precedes (finalState ends)
  kept : ∀ node, node < before.loops.nextNode →
    (finalState ends).loops.node? node = before.loops.node? node
  begun : ∀ node, before.loops.nextNode ≤ node → node < (finalState ends).loops.nextNode →
    (∃ loop, Filled environment Covers before (finalState ends) node loop) ∨
      ∃ error after, ends = .error error after ∧
        Abandoned environment Covers before after error node

namespace Accounts

/-- A computation that does nothing to loops. -/
theorem quiet {before : State} {ends : EStateM.Result DecodeError State α}
    (precedes : before.Precedes (finalState ends))
    (same : (finalState ends).loops = before.loops) : Accounts environment Covers before ends where
  precedes := precedes
  kept := fun _ _ => by rw [same]
  begun := fun node old new => by
    rw [same] at new
    exact absurd new (Nat.not_lt.mpr old)

/-- Where a computation succeeds, all loops are filled. -/
theorem filled_of_ok {before after : State} {result : α}
    (accounts : Accounts environment Covers before (.ok result after)) {node : Nat}
    (old : before.loops.nextNode ≤ node) (new : node < after.loops.nextNode) :
    ∃ loop, Filled environment Covers before after node loop := by
  rcases accounts.begun node old new with filled | ⟨_, _, ⟨⟩, _⟩
  exact filled

/-- Where a computation fails, the loops that are not filled are abandoned. -/
theorem of_error {before after : State} {error : DecodeError}
    (accounts : Accounts environment Covers before (.error error after : EStateM.Result _ _ α))
    {node : Nat} (old : before.loops.nextNode ≤ node) (new : node < after.loops.nextNode) :
    (∃ loop, Filled environment Covers before after node loop) ∨
      Abandoned environment Covers before after error node := by
  rcases accounts.begun node old new with filled | ⟨_, _, ⟨⟩, abandoned⟩
  · exact .inl filled
  · exact .inr abandoned

theorem fails {before after : State} {error : DecodeError} (precedes : before.Precedes after)
    (kept : ∀ node, node < before.loops.nextNode →
      after.loops.node? node = before.loops.node? node)
    (begun : ∀ node, before.loops.nextNode ≤ node → node < after.loops.nextNode →
      (∃ loop, Filled environment Covers before after node loop) ∨
        Abandoned environment Covers before after error node) :
    Accounts environment Covers before (.error error after : EStateM.Result _ _ α) where
  precedes := precedes
  kept := kept
  begun := fun node old new =>
    (begun node old new).imp_right fun abandoned => ⟨error, after, rfl, abandoned⟩

/-- What happens later to loops that are begun later. -/
theorem after {before middle : State} {result : α} {ends : EStateM.Result DecodeError State β}
    (late : Accounts environment Covers middle ends)
    (early : Accounts environment Covers before (.ok result middle)) :
    Accounts environment Covers before ends where
  precedes := early.precedes.trans late.precedes
  kept := fun node old =>
    (late.kept node (Nat.lt_of_lt_of_le old early.precedes.nextLoop)).trans (early.kept node old)
  begun := fun node old new => by
    rcases Nat.lt_or_ge node middle.loops.nextNode with first | second
    · obtain ⟨loop, filled⟩ := early.filled_of_ok old first
      exact .inl ⟨loop, filled.mono (.refl before) late.precedes (late.kept node first)⟩
    · rcases late.begun node second new with ⟨loop, filled⟩ | ⟨error, stop, fails, abandoned⟩
      · exact .inl ⟨loop, filled.mono early.precedes (.refl _) rfl⟩
      · exact .inr ⟨error, stop, fails, abandoned.since early.precedes⟩

end Accounts

/-- A computation that accounts for its loops wherever it begins. -/
def Accounting (environment : Environment) (Covers : {c : Category} → Record c → Prop)
    (computation : Decode α) : Prop :=
  ∀ state, Accounts environment Covers state (computation environment state)

namespace Accounting

/-- Nothing happens to loops between two states. -/
theorem passage : Passage fun before after : State =>
    before.Precedes after ∧ after.loops = before.loops where
  refl := fun state => ⟨.refl state, rfl⟩
  trans := fun early late => ⟨early.1.trans late.1, late.2.trans early.2⟩
  depth := fun outer deeper => ⟨deeper.1.ofDepth outer, deeper.2⟩
  added := fun symbol fresh => ⟨.added symbol fresh, rfl⟩
  numbered := fun state => ⟨.numbered state, rfl⟩

theorem ofRelates {computation : Decode α}
    (relates : Relates environment (fun before after : State =>
      before.Precedes after ∧ after.loops = before.loops) computation) :
    Accounting environment Covers computation :=
  fun state => .quiet (relates state).1 (relates state).2

theorem bind {computation : Decode α} {rest : α → Decode β}
    (first : Accounting environment Covers computation)
    (second : ∀ result, Accounting environment Covers (rest result)) :
    Accounting environment Covers (computation >>= rest) := by
  intro state
  have head := first state
  cases run : computation environment state with
  | ok result middle =>
      rw [run] at head
      rw [bind_of_ok run]
      exact (second result middle).after head
  | error error middle =>
      rw [run] at head
      rw [bind_of_error run]
      exact .fails head.precedes head.kept fun node => head.of_error

theorem descend {computation : Decode α} (inside : Accounting environment Covers computation) :
    Accounting environment Covers (descend computation) := by
  intro state
  have deeper := inside { state with depth := state.depth + 1 }
  unfold Decode.descend
  split
  · exact .quiet (.refl state) rfl
  · cases run : computation environment { state with depth := state.depth + 1 } with
    | ok result middle =>
        rw [run] at deeper
        refine ⟨deeper.precedes.ofDepth _, deeper.kept, fun node old new => .inl ?_⟩
        exact (deeper.filled_of_ok old new).imp fun _ => .ofDepth _
    | error error middle =>
        rw [run] at deeper
        refine .fails (deeper.precedes.ofDepth _) deeper.kept fun node old new => ?_
        exact (deeper.of_error old new).imp (.imp fun _ => .ofDepth _) (.ofDepth _)

theorem registerDeclaration (declaration : Tree .declaration) :
    Accounting environment Covers (registerDeclaration declaration) := by
  intro state
  rcases registerDeclaration_cases environment state declaration with
    ⟨-, ends⟩ | ⟨_, ends⟩ | ⟨_, -, free, ends⟩
  · exact ends ▸ .quiet (.refl state) rfl
  · exact ends ▸ .quiet (.refl state) rfl
  · exact ends ▸ .quiet (.declaring free) rfl

theorem closed : Closed (Accounting environment Covers) where
  stateless := fun stateless => .ofRelates (passage.closed.stateless stateless)
  bind := .bind
  descend := .descend
  resolve := fun record => .ofRelates (passage.closed.resolve record)
  jump := fun id label => .ofRelates (passage.closed.jump id label)
  number := .ofRelates passage.closed.number

/-- A loop is filled if its contents are linked, and abandoned if they fail. -/
theorem looping (loop : LoopRecord) (covered : Covers loop.record)
    (contents : Accounting environment Covers loop.contents) :
    Accounting environment Covers (looping loop.shell loop.contents) := by
  intro state
  have inside := contents (state.begun loop.shell)
  have begun := State.Precedes.begun state loop.shell
  have precedes := begun.trans inside.precedes
  have nextLoop := state.nextLoop_begun loop.shell
  -- The shell is the last loop before those that are begun inside it.
  have shell : (finalState (loop.contents environment (state.begun loop.shell))).loops.node?
      state.loops.nextNode = some loop.shell := by
    rw [inside.kept _ (nextLoop ▸ Nat.lt_succ_self _), State.node?_begun, if_pos rfl]
  have kept : ∀ node, node < state.loops.nextNode →
      (finalState (loop.contents environment (state.begun loop.shell))).loops.node? node =
        state.loops.node? node := by
    intro node old
    rw [inside.kept _ (nextLoop ▸ Nat.lt_succ_of_lt old), State.node?_begun,
      if_neg (Nat.ne_of_lt old)]
  cases run : loop.contents environment (state.begun loop.shell) with
  | error error middle =>
      rw [looping_of_error run]
      rw [run] at inside shell kept precedes
      refine .fails precedes kept fun node old new => ?_
      rcases Nat.eq_or_lt_of_le old with rfl | old
      · exact .inr (.intro loop covered (.refl state) run)
      · have later := Nat.le_trans (Nat.le_of_eq nextLoop) old
        exact (inside.of_error later new).imp
          (.imp fun _ filled => filled.mono begun (.refl _) rfl) (·.since begun)
  | ok made middle =>
      rw [looping_of_ok run]
      rw [run] at inside shell kept precedes
      have filling := State.Precedes.filled middle state.loops.nextNode made
      refine ⟨precedes.trans filling, fun node old => ?_, fun node old new => .inl ?_⟩
      · rw [← kept node old]
        exact LoopTable.node?_populate_of_ne (Nat.ne_of_gt old)
      · rcases Nat.eq_or_lt_of_le old with rfl | old
        · exact ⟨_, .intro loop covered (.refl state) run shell (.refl _)
            (LoopTable.node?_populate_self shell rfl)⟩
        · have later := Nat.le_trans (Nat.le_of_eq nextLoop) old
          have within := Nat.lt_of_lt_of_eq new LoopTable.nextNode_populate
          exact (inside.filled_of_ok later within).imp fun _ filled =>
            filled.mono begun filling (LoopTable.node?_populate_of_ne (Nat.ne_of_lt old))

/-- Linking accounts for loops of the records in question. -/
theorem linking : Linking Covers (Accounting environment Covers) where
  toClosed := closed
  loop := fun {kind id label condition body} context covered bodyGoes conditionGoes => by
    obtain ⟨range, type⟩ := context
    let loop : LoopRecord := { kind, id, label, condition, body, range, type }
    have equal : @build .operation (.loop kind id label condition body) (range, type) = _ :=
      loop.build_eq
    rw [equal]
    exact closed.map (.looping loop covered (.bind bodyGoes fun _ => closed.map conditionGoes))
  declaration := fun parent _ declaratorGoes annotationsGo => by
    rw [build_declarationNode]
    refine .descend <| .bind (closed.stateless (stateless_originNamed _)) fun origin => ?_
    refine .bind closed.number fun node => .bind ?_ fun made => ?_
    · exact .bind (declaratorGoes _) fun _ => closed.map annotationsGo
    · exact closed.map (.registerDeclaration _)
  accessor := fun site _ functionGoes => by
    rw [build_asAccessor]
    refine .bind functionGoes fun _ => .bind closed.number fun _ => .bind (closed.pure _) ?_
    exact fun _ => closed.map (.registerDeclaration _)

/-- Linking the contents of a loop accounts for the loops in them. -/
theorem contents (loop : LoopRecord) :
    Accounting environment (fun _ => True) loop.contents := by
  have linking : Linking (fun _ => True) (Accounting environment fun _ => True) := linking
  exact .bind (linking.build loop.body () fun _ _ => trivial) fun _ =>
    closed.map (linking.build loop.condition () fun _ _ => trivial)

end Accounting

/-- The shell of a loop that was abandoned is still there. -/
theorem Abandoned.node? {before after : State} {node : Nat} {error : DecodeError}
    (abandoned : Abandoned environment Covers before after error node) :
    ∃ shell, after.loops.node? node = some shell ∧ shell.isPopulated = false := by
  cases abandoned with
  | @intro loop start depth covered begins fails =>
      have inside : Accounts environment (fun _ => True) (start.begun loop.shell) _ :=
        Accounting.contents loop _
      have kept := inside.kept start.loops.nextNode
      rw [fails, State.nextLoop_begun, State.node?_begun, if_pos rfl] at kept
      exact ⟨loop.shell, kept (Nat.lt_succ_self _), rfl⟩

end Decode

end IrLink
