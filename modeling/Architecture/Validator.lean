import Architecture.Context
import Architecture.Violation

/-!
Validators: what an analysis runs.

A validator belongs to a kind and finds violations in a context. It sees references only by asking
for them.
-/

namespace Architecture

structure Validator where
  info : RuleInfo
  check : Context → Inquiry (List Violation)

def Validator.kind (v : Validator) : RuleKind := v.info.kind

end Architecture
