import IrLink.Decode.Module
import IrLink.Proofs.Decode.Built

/-!
# Reachable states

A session is asked for symbols, for trees and for files and modules, one
request after the other, and goes on from the state that a request leaves
whether it succeeds or fails.  `Reachable` are the states that come about so.
A relation between states that holds of nothing happening, of one request after
another, and of linking one symbol or record holds of every request
(`Request.relates`).
-/

namespace IrLink

/-- The state in which a run ends. -/
def finalState {ε σ α : Type} : EStateM.Result ε σ α → σ
  | .ok _ state => state
  | .error _ state => state

/-! ## Requests -/

/-- What a session can be asked for. -/
inductive Request where
  | symbol (record : SymbolRecord)
  | type (record : Record .type)
  | expression (record : Record .expression)
  | statement (record : Record .statement)
  | declaration (record : Record .declaration) (parent : Parent)
  | file (source : Source) (record : FileRecord)
  | module (source : Source) (record : ModuleRecord)
  | moduleBytes (source : Source) (bytes : List UInt8)

/-- The state that a request leaves. -/
def Request.after (environment : Environment) (state : State) : Request → State
  | .symbol record => finalState (Decode.resolveSymbol record environment state)
  | .type record => finalState (Decode.buildType record environment state)
  | .expression record => finalState (Decode.buildExpression record environment state)
  | .statement record => finalState (Decode.buildStatement record environment state)
  | .declaration record parent =>
      finalState (Decode.buildDeclaration record parent environment state)
  | .file source record =>
      (finalState (Load.file source record environment { session := state })).session
  | .module source record =>
      (finalState (Load.module source record environment { session := state })).session
  | .moduleBytes source bytes =>
      (finalState (Load.moduleOfBytes source bytes environment { session := state })).session

/-- The states of a session between requests. -/
inductive Reachable (environment : Environment) : State → Prop
  | start : Reachable environment .initial
  | step {state : State} (request : Request) (reachable : Reachable environment state) :
      Reachable environment (request.after environment state)

/-! ## What every request does -/

/-- A relation between the states before and after linking, for one symbol, one
record, and one thing after the other. -/
structure Transition (environment : Environment) (relates : State → State → Prop) :
    Prop where
  refl : ∀ state, relates state state
  trans : ∀ {first second third}, relates first second → relates second third →
    relates first third
  symbol : ∀ record state,
    relates state (finalState (Decode.resolveSymbol record environment state))
  record : ∀ {c : Category} (record : Record c) (context : Context c) state,
    relates state (finalState (Decode.build record context environment state))

namespace Load

variable {α β : Type} {environment : Environment} {relates : State → State → Prop}

/-- A computation of a loader relates the session before to the session after. -/
def Relates (environment : Environment) (relates : State → State → Prop)
    (computation : Load α) : Prop :=
  ∀ state, relates state.session (finalState (computation environment state)).session

namespace Relates

variable (transition : Transition environment relates)

include transition

theorem pure (result : α) : Relates environment relates (pure result : Load α) :=
  fun state => transition.refl state.session

theorem throw (error : DecodeError) : Relates environment relates (throw error : Load α) :=
  fun state => transition.refl state.session

theorem bind {computation : Load α} {rest : α → Load β}
    (first : Relates environment relates computation)
    (second : ∀ result, Relates environment relates (rest result)) :
    Relates environment relates (computation >>= rest) := by
  intro state
  have head := first state
  simp only [Bind.bind, ReaderT.bind, EStateM.bind]
  cases run : computation environment state with
  | ok result middle =>
      rw [run] at head
      exact transition.trans head (second result middle)
  | error error middle =>
      rw [run] at head
      exact head

theorem ofBytes (outcome : Except Bytes.Fault α) :
    Relates environment relates (Load.ofBytes outcome) := by
  cases outcome with
  | ok result => exact .pure transition result
  | error fault => exact .throw transition _

theorem ask (source : Source) (id : UInt64) :
    Relates environment relates (Load.ask source id) := by
  refine .bind transition (fun state => transition.refl state.session) fun _ => ?_
  cases source id with
  | none => exact .throw transition _
  | some bytes => exact .pure transition bytes

theorem built (record : Record .declaration) (parent : Parent) :
    Relates environment relates (ofDecode (Decode.buildDeclaration record parent)) := by
  intro state
  have head := transition.record record parent state.session
  unfold ofDecode Decode.buildDeclaration
  cases run : Decode.build record parent environment state.session with
  | ok tree after =>
      rw [run] at head
      exact head
  | error error after =>
      rw [run] at head
      exact head

theorem declaration (source : Source) (file : String) (id : UniqueId) :
    Relates environment relates (Load.declaration source file id) :=
  .bind transition (.ask transition source id.index) fun _ =>
    .bind transition (.ofBytes transition _) fun record => .built transition record _

theorem declarations (source : Source) (file : String) (ids : List UniqueId) :
    Relates environment relates (Load.declarations source file ids) := by
  induction ids with
  | nil => exact .pure transition []
  | cons id rest inductionHypothesis =>
      exact .bind transition (.declaration transition source file id) fun _ =>
        .bind transition inductionHypothesis fun _ => .pure transition _

theorem file (source : Source) (record : FileRecord) :
    Relates environment relates (Load.file source record) :=
  .bind transition (.declarations transition source record.name record.declarations)
    fun _ => .pure transition _

theorem files (source : Source) (records : List FileRecord) :
    Relates environment relates (Load.files source records) := by
  induction records with
  | nil => exact .pure transition []
  | cons record rest inductionHypothesis =>
      exact .bind transition (.file transition source record) fun _ =>
        .bind transition inductionHypothesis fun _ => .pure transition _

theorem module (source : Source) (record : ModuleRecord) :
    Relates environment relates (Load.module source record) :=
  .bind transition (fun state => transition.refl state.session) fun _ =>
    .bind transition (.files transition source record.files) fun _ => .pure transition _

end Relates

end Load

/-- What relates the states before and after linking relates those before and
after every request. -/
theorem Request.relates {environment : Environment} {relates : State → State → Prop}
    (transition : Transition environment relates) (request : Request) (state : State) :
    relates state (request.after environment state) := by
  cases request with
  | symbol record => exact transition.symbol record state
  | type record => exact transition.record record () state
  | expression record => exact transition.record record () state
  | statement record => exact transition.record record () state
  | declaration record parent => exact transition.record record parent state
  | file source record =>
      exact Load.Relates.file transition source record { session := state }
  | module source record =>
      exact Load.Relates.module transition source record { session := state }
  | moduleBytes source bytes =>
      exact Load.Relates.bind transition (.ofBytes transition _)
        (fun record => .module transition source record) { session := state }

/-! ## Known symbols -/

namespace Decode

/-- What a computation keeps, however it ends. -/
theorem Follows.kept {α : Type} {environment : Environment} {state : State}
    {computation : Decode α} {items : List Item} {post : α → State → Prop}
    (follows : Follows environment state computation items post) (keyed : state.Keyed) :
    Kept state (finalState (computation environment state)) := by
  cases run : computation environment state with
  | ok result after => exact (follows.ok keyed run).2.1
  | error error after => exact (follows.error keyed run).2

/-- Linking a symbol keeps what every computation keeps. -/
theorem resolveSymbol_kept {environment : Environment} {state : State}
    (record : SymbolRecord) (keyed : state.Keyed) :
    Kept state (finalState (resolveSymbol record environment state)) := by
  rcases resolveSymbol_links record environment state.symbols with ⟨outcome, after, links⟩
  rw [links.runs state rfl]
  cases outcome <;> exact Follows.kept_of_links links keyed

/-- From a state in which symbols are known under their own identifiers, every
request keeps what is known. -/
theorem kept_transition (environment : Environment) :
    Transition environment fun before after => before.Keyed → Kept before after where
  refl := fun _ keyed => .refl keyed
  trans := fun first second keyed => (first keyed).trans (second (first keyed).keyed)
  symbol := fun record _ keyed => resolveSymbol_kept record keyed
  record := fun record context _ keyed => (build_follows record context).kept keyed

end Decode

/-- A symbol that is known after built-ins were added is one of theirs, or was
known before. -/
theorem Builtin.known_of_added (builtins : List Builtin) {symbols : Std.TreeMap UInt64 Symbol}
    {id : UInt64} {symbol : Symbol}
    (found : (builtins.foldl
      (fun symbols builtin => symbols.insert builtin.symbol.id builtin.symbol)
      symbols)[id]? = some symbol) :
    (∃ builtin ∈ builtins, builtin.symbol = symbol ∧ symbol.id = id) ∨
      symbols[id]? = some symbol := by
  induction builtins generalizing symbols with
  | nil => exact .inr found
  | cons builtin builtins inductionHypothesis =>
      rcases inductionHypothesis found with ⟨other, among, same⟩ | found
      · exact .inl ⟨other, .tail builtin among, same⟩
      · rw [Std.TreeMap.getElem?_insert] at found
        split at found
        · rename_i same
          cases found
          exact .inl ⟨builtin, .head builtins, rfl, Std.LawfulEqOrd.eq_of_compare same⟩
        · exact .inr found

/-- A session begins with the symbols of built-ins. -/
theorem State.builtin_of_initial {id : UInt64} {symbol : Symbol}
    (found : State.initial.symbols[id]? = some symbol) :
    ∃ builtin ∈ Builtin.all, builtin.symbol = symbol ∧ symbol.id = id := by
  rcases Builtin.known_of_added Builtin.all found with builtin | found
  · exact builtin
  · simp at found

/-- A session begins with symbols that are known under their own identifiers. -/
theorem State.initial_keyed : State.initial.Keyed := by
  intro id symbol found
  rcases State.builtin_of_initial found with ⟨_, _, _, same⟩
  exact same

namespace Reachable

variable {environment : Environment} {state : State}

/-- In a reachable state every symbol is known under its own identifier. -/
theorem keyed (reachable : Reachable environment state) : state.Keyed := by
  induction reachable with
  | start => exact State.initial_keyed
  | step request _ inductionHypothesis =>
      exact (request.relates (Decode.kept_transition environment) _ inductionHypothesis).keyed

end Reachable

end IrLink
