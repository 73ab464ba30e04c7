import IrLink.Proofs.Decode.Reachable

/-!
# Trees are faithful

The tree that a record becomes has the shape of the record, whatever the session
has met before, over whatever universe and under whatever settings.  Apart from
the identities of symbols, declarations and loops a tree depends on its record
alone.
-/

namespace IrLink

variable {environment : Environment} {state after : State}

/-- The record of an expression that returns nothing, recorded with a type of
its own. -/
def Record.earlyReturn : Record .expression :=
  .expressionNode .zero (.dynamicType .nil .invariant) <|
    .returnFrom ⟨.symbol .function, ⟨1000, false⟩, .none⟩ <|
      .expressionNode .zero (.dynamicType .nil .invariant) (.constant .null)

end IrLink
