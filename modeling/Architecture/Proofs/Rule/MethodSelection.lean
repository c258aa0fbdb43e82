import Architecture.Proofs.Hierarchy.Implementation
import Architecture.Proofs.Signature
import Architecture.Rule.MethodMarker

/-!
# Selecting one of several overloads

A selector with a list of parameters takes the list as an open signature: placeholders in it
stand for any types, and owners play no part. Made for one overload, it therefore locates
the first overload that is an instance of this one. That is the overload itself unless an
earlier one is an instance, which among overloads without placeholders is the case only if
the two differ in owners alone.
-/

namespace Architecture

namespace TypeRef

mutual

/-- Whether a reference has no placeholders. -/
def isClosed : TypeRef → Bool
  | .generic _ => false
  | .named _ _ args => allClosed args

def allClosed : List TypeRef → Bool
  | [] => true
  | r :: rest => isClosed r && allClosed rest

end

mutual

theorem fill_of_isClosed : (r : TypeRef) → (filling : Filling) → r.isClosed = true →
    r.fill filling = r
  | .named _ _ args, _, closed => by
      rw [fill, fillAll_of_allClosed args _ closed]

theorem fillAll_of_allClosed : (rs : List TypeRef) → (fillings : Nat → Filling) →
    allClosed rs = true → fillAll fillings rs = rs
  | [], _, _ => rfl
  | r :: rest, _, closed => by
      rw [allClosed, Bool.and_eq_true] at closed
      rw [fillAll, fill_of_isClosed r _ closed.1, fillAll_of_allClosed rest _ closed.2]

end

/-- References without placeholders accept what differs from them in owners only. -/
theorem acceptsAll_iff_of_allClosed {rs : List TypeRef} (closed : allClosed rs = true)
    (cs : List TypeRef) :
    acceptsAll rs cs = true ↔ rs.map withoutOwners = cs.map withoutOwners := by
  simp only [acceptsAll_iff_exists_fillAll, fillAll_of_allClosed rs _ closed, exists_const]

end TypeRef

/-- A member of the same name whose parameters arise from those of this one by filling its
placeholders, owners left aside. -/
def Member.IsInstance (m d : Member) : Prop :=
  d.name = m.name ∧ ∃ fillings, (TypeRef.fillAll fillings m.parameters).map TypeRef.withoutOwners =
    d.parameters.map TypeRef.withoutOwners

theorem Member.accepts_iff_isInstance {m d : Member} : m.accepts d = true ↔ m.IsInstance d := by
  rw [accepts_iff, TypeRef.acceptsAll_iff_exists_fillAll, IsInstance, eq_comm]

namespace MethodSelector

/-- The selector made of the name and the parameters of a method. -/
def ofMethod (m : Member) : MethodSelector := { name := m.name, parameters := some m.parameters }

variable {t : TypeDescriptor} {m d : Member} {before after : List Member}

theorem selects_ofMethod_iff :
    (ofMethod m).selects d = true ↔ d.isMethod = true ∧ m.accepts d = true := by
  have named : m.accepts d = true → decide (d.name = m.name) = true := fun accepted =>
    decide_eq_true (Member.accepts_iff.mp accepted).1.symm
  have signature : (Member.method m.name m.parameters none).accepts d = m.accepts d := rfl
  simp only [selects, ofMethod, signature, Bool.and_eq_true, and_assoc]
  exact and_congr_right fun _ => and_iff_right_of_imp named

/-- The method located is the first one that the given method accepts. -/
theorem locate?_ofMethod_eq_some_iff :
    (ofMethod m).locate? t = some d ↔ IsFirst (m.accepts · = true) t.methods d := by
  have selected : ∀ c ∈ t.methods, (ofMethod m).selects c = true ↔ m.accepts c = true := by
    intro c member
    rw [selects_ofMethod_iff]
    exact and_iff_right (List.mem_filter.mp member).2
  rw [locate?, find?_eq_some_iff_isFirst fun _ => Iff.rfl]
  exact isFirst_congr selected

/-- A selector made for a method of a type always locates one, which is the first instance
of the method in the type. -/
theorem exists_locate?_ofMethod (member : m ∈ t.methods) :
    ∃ first, (ofMethod m).locate? t = some first ∧
      IsFirst (m.accepts · = true) t.methods first := by
  rcases exists_isFirst (p := (m.accepts · = true)) member m.accepts_self with ⟨first, isFirst⟩
  exact ⟨first, locate?_ofMethod_eq_some_iff.mpr isFirst, isFirst⟩

/-- Between methods of which no two have one name and the same parameters, the selector locates
the method it is made for exactly if no earlier method is an instance. -/
theorem locate?_eq_some_self_iff (declared : t.methods = before ++ m :: after)
    (unique : ∀ d ∈ before ++ after, d.name = m.name → d.parameters ≠ m.parameters) :
    (ofMethod m).locate? t = some m ↔ ∀ d ∈ before, ¬ m.accepts d = true := by
  rw [locate?_ofMethod_eq_some_iff]
  constructor
  · rintro ⟨earlier, later, split, _, notEarlier⟩
    -- The method has one place only, so this is the place that is looked at.
    have notOther : m ∉ before ++ after := fun member => unique m member rfl rfl
    rw [List.mem_append, not_or] at notOther
    rw [declared, List.append_cons_inj_of_notMem notOther.1 notOther.2] at split
    rwa [split.1]
  · intro notEarlier
    exact ⟨before, after, declared, m.accepts_self, notEarlier⟩

/-- A selector made for a method of a type locates the first instance of the method in the
type. Where no other method has its name and parameters, that is the method itself exactly if
no earlier method is an instance of it. A method without placeholders is located exactly if
no earlier method has its name and, up to owners, its parameters. -/
theorem locate?_ofMethod_self_iff (t : TypeDescriptor) (m : Member) (before after : List Member)
    (declared : t.methods = before ++ m :: after)
    (unique : ∀ d ∈ before ++ after, d.name = m.name → d.parameters ≠ m.parameters) :
    (∃ first, (ofMethod m).locate? t = some first ∧ IsFirst m.IsInstance t.methods first) ∧
      ((ofMethod m).locate? t = some m ↔ ∀ d ∈ before, ¬ m.IsInstance d) ∧
      (TypeRef.allClosed m.parameters = true →
        ((ofMethod m).locate? t = some m ↔ ∀ d ∈ before, d.name = m.name →
          m.parameters.map TypeRef.withoutOwners ≠ d.parameters.map TypeRef.withoutOwners)) := by
  have located := locate?_eq_some_self_iff declared unique
  refine ⟨?_, ?_, ?_⟩
  · have member : m ∈ t.methods := by simp [declared]
    rcases exists_locate?_ofMethod member with ⟨first, found, isFirst⟩
    exact ⟨first, found, (isFirst_congr fun _ _ => Member.accepts_iff_isInstance).mp isFirst⟩
  · simpa only [Member.accepts_iff_isInstance] using located
  · intro closed
    rw [located]
    simp only [Member.accepts_iff, TypeRef.acceptsAll_iff_of_allClosed closed, not_and,
      eq_comm (a := m.name)]

/-- A type with a method for each list of parameters. -/
def overloaded (parameters : List (List TypeRef)) : TypeDescriptor where
  name := ⟨some "App", "Store"⟩
  kind := .interface
  members := parameters.map (.method "Put" · none)
  genericParameters := ["T"]

def keyed (value : TypeRef) : TypeRef :=
  .named ⟨some "Lib", "Map"⟩ "Lib" [.named ⟨some "App", "Key"⟩ "App" [], value]

/-- Behind a method that takes some map and before one that takes anything, the method for maps
of orders is located. -/
theorem locate?_ofMethod_self_iff_overloaded :
    let order := TypeRef.named ⟨some "App", "Order"⟩ "App" []
    let t := overloaded [[keyed (.generic "T")], [keyed order], [.generic "T"]]
    let m := Member.method "Put" [keyed order] none
    t.methods = [Member.method "Put" [keyed (.generic "T")] none] ++
        m :: [Member.method "Put" [.generic "T"] none] ∧
      TypeRef.allClosed m.parameters = true ∧ (ofMethod m).locate? t = some m := by
  intro order t m
  have declared : t.methods = [Member.method "Put" [keyed (.generic "T")] none] ++
      m :: [Member.method "Put" [.generic "T"] none] := by decide
  have closed : TypeRef.allClosed m.parameters = true := by decide
  refine ⟨declared, closed, ?_⟩
  exact ((locate?_ofMethod_self_iff t m _ _ declared (by decide)).2.2 closed).mpr (by decide)

/-- A method that takes anything is not located behind one that takes a key, nor is a method
for orders of one module behind a method for orders of another. -/
theorem locate?_earlierInstance :
    let key := TypeRef.named ⟨some "App", "Key"⟩ "App" []
    let order := fun owner => TypeRef.named ⟨some "App", "Order"⟩ owner []
    let put := fun parameter => Member.method "Put" [parameter] none
    ((overloaded [[key], [.generic "T"]]).methods = [put key, put (.generic "T")] ∧
      (put key).parameters ≠ (put (.generic "T")).parameters ∧
      (ofMethod (put (.generic "T"))).locate? (overloaded [[key], [.generic "T"]]) =
        some (put key)) ∧
    (overloaded [[order "App"], [order "Lib"]]).methods = [put (order "App"), put (order "Lib")] ∧
      (put (order "App")).parameters ≠ (put (order "Lib")).parameters ∧
      (ofMethod (put (order "Lib"))).locate? (overloaded [[order "App"], [order "Lib"]]) =
        some (put (order "App")) := by
  decide

end MethodSelector

end Architecture
