import IrLink.Proofs.Decode.Replay
import IrLink.Proofs.Decode.Walk

/-!
# Declarations that were built completely

Linking a record may fail anywhere, and what it has added to the session by then stays
there.  A declaration is made known only when it is complete: whatever became known while
a record was linked, successfully or not, is what linking one of the records inside it has
given (`build_completing`).
-/

namespace IrLink.Decode

variable {α β : Type} {environment : Environment} {c d : Category}

/-! ## What is completed -/

/-- Linking a record that is a declaration gives the declaration. -/
inductive Gives (environment : Environment) :
    {c : Category} → Record c → State → Tree .declaration → State → Prop
  | declaration {record : Record .declaration} {parent : Parent} {start stop : State}
      {declaration : Tree .declaration}
      (run : build record parent environment start = .ok declaration stop) :
      Gives environment record start declaration stop
  | accessor {record : Record .accessor} {site : Site} {start stop : State}
      {declaration : Tree .declaration}
      (run : build record site environment start = .ok declaration stop) :
      Gives environment record start declaration stop

/-- Between two states a declaration was completed: linking a record inside the given one has
given the declaration and made it known. -/
def Completed (environment : Environment) (record : Record c) (before after : State)
    (id : DescriptorId) (declaration : Tree .declaration) : Prop :=
  ∃ (d : Category) (inner : Record d) (start stop : State), inner.Inside record ∧
    before.Precedes start ∧ Gives environment inner start declaration stop ∧
    stop.Precedes after ∧ start.declarations[id]? = none ∧ stop.Registers id declaration

/-- Between two states nothing was taken away, and only complete declarations became known. -/
structure Completes (environment : Environment) (record : Record c) (before after : State) :
    Prop where
  precedes : before.Precedes after
  completed : ∀ id declaration, after.Registers id declaration →
    before.Registers id declaration ∨ Completed environment record before after id declaration

section Completes

variable {record : Record c} {inner : Record d} {before middle after state : State}
  {id : DescriptorId} {declaration : Tree .declaration}

theorem Completed.mono (completed : Completed environment record middle state id declaration)
    (early : before.Precedes middle) (late : state.Precedes after) :
    Completed environment record before after id declaration := by
  rcases completed with ⟨d, inner, start, stop, inside, first, gives, last, free, registered⟩
  exact ⟨d, inner, start, stop, inside, early.trans first, gives, last.trans late, free,
    registered⟩

namespace Completes

theorem refl (state : State) : Completes environment record state state :=
  ⟨.refl state, fun _ _ => .inl⟩

theorem trans (first : Completes environment record before middle)
    (second : Completes environment record middle after) :
    Completes environment record before after where
  precedes := first.precedes.trans second.precedes
  completed := fun id declaration registered => by
    rcases second.completed id declaration registered with registered | completed
    · exact (first.completed id declaration registered).imp_right
        (·.mono (.refl before) second.precedes)
    · exact .inr (completed.mono first.precedes (.refl after))

/-- Where no declaration becomes known, all that does is complete. -/
theorem ofSame (precedes : before.Precedes after)
    (same : after.declarations = before.declarations) :
    Completes environment record before after where
  precedes := precedes
  completed := fun id declaration registered => by
    rw [State.Registers, same] at registered
    exact .inl registered

/-- The nesting does not matter. -/
theorem ofDepth {inner : Nat} (outer : Nat)
    (completes : Completes environment record { before with depth := inner } after) :
    Completes environment record before { after with depth := outer } where
  precedes := completes.precedes.ofDepth outer
  completed := fun id declaration registered => by
    refine (completes.completed id declaration registered).imp_right fun completed => ?_
    exact completed.mono { State.Precedes.refl before with } { State.Precedes.refl after with }

/-- Making a declaration known that linking a record inside gives. -/
theorem declaring (completes : Completes environment record before state)
    (inside : inner.Inside record) (free : state.declarations[id]? = none)
    (gives : Gives environment inner before declaration (state.declaring id declaration)) :
    Completes environment record before (state.declaring id declaration) where
  precedes := completes.precedes.trans (.declaring free)
  completed := fun other known registered => by
    rw [State.registers_declaring] at registered
    split at registered
    · rename_i same
      subst same registered
      exact .inr ⟨d, inner, before, _, inside, .refl before, gives, .refl _,
        completes.precedes.undeclared free, State.registers_declaring.mpr (by simp)⟩
    · exact (completes.completed other known registered).imp_right
        (·.mono (.refl before) (.declaring free))

end Completes

end Completes

/-! ## Rules -/

/-- However a computation ends, only complete declarations became known. -/
def Completing (environment : Environment) (record : Record c) (computation : Decode α) : Prop :=
  ∀ state, Completes environment record state (finalState (computation environment state))

theorem Completes.passage {record : Record c} : Passage (Completes environment record) where
  refl := .refl
  trans := .trans
  depth := .ofDepth
  added := fun symbol fresh => .ofSame (.added symbol fresh) rfl
  numbered := fun state => .ofSame (.numbered state) rfl

theorem Completing.closed {record : Record c} : Closed (Completing environment record) :=
  Completes.passage.closed

/-! ## Declarations -/

/-- A computation that gives a declaration and makes it known as the last thing. -/
def Declaring (environment : Environment) (record : Record c)
    (computation : Decode (Tree .declaration)) : Prop :=
  ∀ state, Completes environment record state (finalState (computation environment state)) ∨
    ∃ declaration middle id, Completes environment record state middle ∧
      middle.declarations[id]? = none ∧
      computation environment state = .ok declaration (middle.declaring id declaration)

namespace Declaring

variable {record : Record c} {inner : Record d} {computation : Decode (Tree .declaration)}

theorem bind {first : Decode α} {rest : α → Decode (Tree .declaration)}
    (completing : Completing environment record first)
    (declaring : ∀ result, Declaring environment record (rest result)) :
    Declaring environment record (first >>= rest) := by
  intro state
  have head := completing state
  cases run : first environment state with
  | ok result middle =>
      rw [run] at head
      rw [bind_of_ok run]
      rcases declaring result middle with completes | ⟨declaration, last, id, completes, ends⟩
      · exact .inl (head.trans completes)
      · exact .inr ⟨declaration, last, id, head.trans completes, ends⟩
  | error error middle =>
      rw [run] at head
      rw [bind_of_error run]
      exact .inl head

theorem descend (inside : Declaring environment record computation) :
    Declaring environment record (descend computation) := by
  intro state
  rcases inside { state with depth := state.depth + 1 } with
    completes | ⟨declaration, middle, id, completes, free, run⟩
  · rcases finalState_descend environment state computation with same | ⟨depth, same⟩
    · rw [same]
      exact .inl (.refl state)
    · rw [same]
      exact .inl (completes.ofDepth depth)
  · unfold Decode.descend
    split
    · exact .inl (.refl state)
    · rw [run]
      exact .inr ⟨declaration, { middle with depth := middle.depth - 1 }, id,
        completes.ofDepth _, free, rfl⟩

theorem declaring (range : Range) (origin : Origin) (parent : Parent)
    {make : Nat → Decode (Tree .declarator × Tree (.list .call))}
    (made : ∀ node, Completing environment record (make node)) :
    Declaring environment record (declaring range origin parent make) := by
  intro state
  have numbered : Completes environment record state state.numbered :=
    .ofSame (.numbered state) rfl
  have parts := numbered.trans (made state.nextNode state.numbered)
  cases run : make state.nextNode environment state.numbered with
  | error error middle =>
      rw [run] at parts
      rw [declaring_of_error run]
      exact .inl parts
  | ok made middle =>
      rw [run] at parts
      rcases declaring_of_ok run rfl with
        ⟨-, ends⟩ | ⟨descriptor, ends⟩ | ⟨descriptor, -, free, ends⟩
      · rw [ends]
        exact .inl parts
      · rw [ends]
        exact .inl parts
      · exact .inr ⟨_, middle, descriptor.id, parts, free, ends⟩

/-- Where linking a record makes its declaration known as the last thing, only complete
declarations become known. -/
theorem completing {build : Decode (Tree .declaration)}
    (declaring : Declaring environment record build) (inside : inner.Inside record)
    (gives : ∀ start declaration stop, build environment start = .ok declaration stop →
      Gives environment inner start declaration stop) :
    Completing environment record build := by
  intro state
  rcases declaring state with completes | ⟨declaration, middle, id, completes, free, ends⟩
  · exact completes
  · rw [ends]
    exact completes.declaring inside free (gives state declaration _ ends)

end Declaring

/-! ## Records -/

/-- Linking completes the declarations of the records inside a record. -/
theorem completing_linking (record : Record c) :
    Linking (·.Inside record) (Completing environment record) where
  toClosed := Completing.closed
  loop := fun _ _ body condition => by
    have closed : Closed (Completing environment record) := Completing.closed
    have begins (shell : LoopNode) : Completing environment record (beginLoop shell) :=
      fun state => .ofSame (.begun state shell) rfl
    have fills (node : Nat) (contents : LoopContents) :
        Completing environment record (fillLoop node contents) :=
      fun state => .ofSame (.filled state node contents) rfl
    exact closed.bind (begins _) fun node => closed.bind body fun _ =>
      closed.bind condition fun _ => closed.map (fills node _)
  declaration := fun parent inside declarator annotations => by
    refine Declaring.completing ?_ inside fun _ _ _ run => .declaration run
    rw [build_declarationNode]
    refine .descend <| .bind (Completing.closed.stateless (stateless_originNamed _))
      fun origin => .declaring _ _ _ fun node => ?_
    exact Completing.closed.bind (declarator _) fun _ => Completing.closed.map annotations
  accessor := fun site inside function => by
    refine Declaring.completing ?_ inside fun _ _ _ run => .accessor run
    rw [build_asAccessor]
    exact .bind function fun _ => .declaring _ _ _ fun _ => Completing.closed.pure _

/-- However linking a record ends, only complete declarations became known. -/
theorem build_completing (record : Record c) (context : Context c) :
    Completing environment record (build record context) :=
  (completing_linking record).build record context fun _ inside => inside

end IrLink.Decode
