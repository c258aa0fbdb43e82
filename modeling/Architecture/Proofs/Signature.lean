import Architecture.Signature
import Mathlib.Order.Defs.Unbundled

/-!
# Signatures and their instances

A reference accepts what arises from it when every placeholder is replaced by a type, each
by one of its own, and owners are left aside. Acceptance is therefore a preorder, and
members accept each other if they differ in owners and in the names of placeholders only.
-/

namespace Architecture

namespace TypeRef

/-- A place in a reference, by the argument that is entered at each level. -/
abbrev Place := List Nat

/-- What stands for the placeholder of a name at a place. -/
abbrev Filling := Place → String → TypeRef

mutual

def fill (filling : Filling) : TypeRef → TypeRef
  | .generic parameter => filling [] parameter
  | .named name owner args =>
    .named name owner (fillAll (fun i place => filling (i :: place)) args)

def fillAll (fillings : Nat → Filling) : List TypeRef → List TypeRef
  | [] => []
  | r :: rest => fill (fillings 0) r :: fillAll (fun i => fillings (i + 1)) rest

end

/-- The filling of a type that fills its arguments as told. -/
def Filling.ofArgs (fillings : Nat → Filling) : Filling
  | [] => generic
  | i :: place => fillings i place

def Filling.cons (first : Filling) (others : Nat → Filling) : Nat → Filling
  | 0 => first
  | i + 1 => others i

/-- One type for all placeholders of a name. -/
def substitute (types : String → TypeRef) : TypeRef → TypeRef := fill fun _ => types

mutual

/-- Other names for the placeholders and other owners for the types. -/
def relabel (parameter owner : String → String) : TypeRef → TypeRef
  | .generic p => .generic (parameter p)
  | .named name o args => .named name (owner o) (relabelAll parameter owner args)

def relabelAll (parameter owner : String → String) : List TypeRef → List TypeRef
  | [] => []
  | r :: rest => relabel parameter owner r :: relabelAll parameter owner rest

end

def withoutOwners : TypeRef → TypeRef := relabel id fun _ => ""

/-- What is left without owners and without the names of placeholders. -/
def outline : TypeRef → TypeRef := relabel (fun _ => "") fun _ => ""

theorem fill_ofArgs (fillings : Nat → Filling) (name : TypeName) (owner : String)
    (args : List TypeRef) :
    (named name owner args).fill (.ofArgs fillings) = named name owner (fillAll fillings args) := by
  rw [fill]
  rfl

theorem fillAll_cons (first : Filling) (others : Nat → Filling) (r : TypeRef)
    (rest : List TypeRef) :
    fillAll (.cons first others) (r :: rest) = r.fill first :: fillAll others rest := by
  rw [fillAll]
  rfl

theorem fillAll_eq_map (types : String → TypeRef) (rs : List TypeRef) :
    fillAll (fun _ _ => types) rs = rs.map (substitute types) := by
  induction rs with
  | nil => rfl
  | cons r rest inductionHypothesis =>
      rw [fillAll, inductionHypothesis, List.map_cons, substitute]

theorem relabelAll_eq_map (parameter owner : String → String) (rs : List TypeRef) :
    relabelAll parameter owner rs = rs.map (relabel parameter owner) := by
  induction rs with
  | nil => rfl
  | cons r rest inductionHypothesis => rw [relabelAll, inductionHypothesis, List.map_cons]

theorem withoutOwners_named (name : TypeName) (owner : String) (args : List TypeRef) :
    (named name owner args).withoutOwners = named name "" (args.map withoutOwners) := by
  rw [withoutOwners, relabel, relabelAll_eq_map]

theorem outline_named (name : TypeName) (owner : String) (args : List TypeRef) :
    (named name owner args).outline = named name "" (args.map outline) := by
  rw [outline, relabel, relabelAll_eq_map]

theorem accepts_named_iff {n m : TypeName} {o p : String} {xs ys : List TypeRef} :
    (named n o xs).accepts (named m p ys) = true ↔ n = m ∧ acceptsAll xs ys = true := by
  rw [accepts, Bool.and_eq_true, decide_eq_true_eq]

theorem acceptsAll_cons_iff {x y : TypeRef} {xs ys : List TypeRef} :
    acceptsAll (x :: xs) (y :: ys) = true ↔ x.accepts y = true ∧ acceptsAll xs ys = true := by
  rw [acceptsAll, Bool.and_eq_true]

mutual

theorem accepts_refl : (r : TypeRef) → r.accepts r = true
  | .generic _ => rfl
  | .named _ _ args => accepts_named_iff.mpr ⟨rfl, acceptsAll_refl args⟩

theorem acceptsAll_refl : (rs : List TypeRef) → acceptsAll rs rs = true
  | [] => rfl
  | r :: rest => acceptsAll_cons_iff.mpr ⟨accepts_refl r, acceptsAll_refl rest⟩

end

mutual

theorem accepts_trans : (r c d : TypeRef) → r.accepts c = true → c.accepts d = true →
    r.accepts d = true
  | .generic _, _, _, _, _ => rfl
  | .named _ _ xs, .named _ _ ys, .named _ _ zs, lower, upper => by
      rw [accepts_named_iff] at lower upper ⊢
      exact ⟨lower.1.trans upper.1, acceptsAll_trans xs ys zs lower.2 upper.2⟩

theorem acceptsAll_trans : (rs cs ds : List TypeRef) → acceptsAll rs cs = true →
    acceptsAll cs ds = true → acceptsAll rs ds = true
  | [], [], [], _, _ => rfl
  | r :: rs, c :: cs, d :: ds, lower, upper => by
      rw [acceptsAll_cons_iff] at lower upper ⊢
      exact ⟨accepts_trans r c d lower.1 upper.1, acceptsAll_trans rs cs ds lower.2 upper.2⟩

end

mutual

theorem accepts_fill : (r : TypeRef) → (filling : Filling) → r.accepts (r.fill filling) = true
  | .generic _, _ => rfl
  | .named _ _ args, _ => accepts_named_iff.mpr ⟨rfl, acceptsAll_fillAll args _⟩

theorem acceptsAll_fillAll : (rs : List TypeRef) → (fillings : Nat → Filling) →
    acceptsAll rs (fillAll fillings rs) = true
  | [], _ => rfl
  | r :: rest, _ => acceptsAll_cons_iff.mpr ⟨accepts_fill r _, acceptsAll_fillAll rest _⟩

end

section Relabelling

variable (parameter owner : String → String)

mutual

theorem accepts_relabel : (r c : TypeRef) → r.accepts (c.relabel parameter owner) = r.accepts c
  | .generic _, _ => rfl
  | .named _ _ _, .generic _ => rfl
  | .named n _ xs, .named m _ ys => by
      rw [relabel, accepts, accepts, acceptsAll_relabelAll xs ys]

theorem acceptsAll_relabelAll : (rs cs : List TypeRef) →
    acceptsAll rs (relabelAll parameter owner cs) = acceptsAll rs cs
  | [], [] => rfl
  | [], _ :: _ => rfl
  | _ :: _, [] => rfl
  | r :: rs, c :: cs => by
      rw [relabelAll, acceptsAll, acceptsAll, accepts_relabel r c, acceptsAll_relabelAll rs cs]

end

end Relabelling

mutual

theorem exists_fill_of_accepts : (r c : TypeRef) → r.accepts c = true →
    ∃ filling, (r.fill filling).withoutOwners = c.withoutOwners
  | .generic _, c, _ => ⟨fun _ _ => c, rfl⟩
  | .named n _ xs, .named _ _ ys, accepted => by
      rcases accepts_named_iff.mp accepted with ⟨rfl, argsAccepted⟩
      rcases exists_fillAll_of_acceptsAll xs ys argsAccepted with ⟨fillings, filled⟩
      refine ⟨.ofArgs fillings, ?_⟩
      rw [fill_ofArgs, withoutOwners_named, withoutOwners_named, filled]

theorem exists_fillAll_of_acceptsAll : (rs cs : List TypeRef) → acceptsAll rs cs = true →
    ∃ fillings, (fillAll fillings rs).map withoutOwners = cs.map withoutOwners
  | [], [], _ => ⟨fun _ _ => generic, rfl⟩
  | r :: rs, c :: cs, accepted => by
      rcases acceptsAll_cons_iff.mp accepted with ⟨firstAccepted, restAccepted⟩
      rcases exists_fill_of_accepts r c firstAccepted with ⟨first, firstFilled⟩
      rcases exists_fillAll_of_acceptsAll rs cs restAccepted with ⟨others, othersFilled⟩
      refine ⟨.cons first others, ?_⟩
      rw [fillAll_cons, List.map_cons, List.map_cons, firstFilled, othersFilled]

end

theorem accepts_iff_exists_fill (r c : TypeRef) :
    r.accepts c = true ↔ ∃ filling, (r.fill filling).withoutOwners = c.withoutOwners := by
  constructor
  · exact exists_fill_of_accepts r c
  · rintro ⟨filling, same⟩
    rw [← accepts_relabel id (fun _ => "") r c, ← withoutOwners, ← same, withoutOwners,
      accepts_relabel]
    exact accepts_fill r filling

theorem acceptsAll_iff_exists_fillAll (rs cs : List TypeRef) :
    acceptsAll rs cs = true ↔
      ∃ fillings, (fillAll fillings rs).map withoutOwners = cs.map withoutOwners := by
  constructor
  · exact exists_fillAll_of_acceptsAll rs cs
  · rintro ⟨fillings, same⟩
    rw [← acceptsAll_relabelAll id (fun _ => "") rs cs, relabelAll_eq_map, ← withoutOwners, ← same,
      withoutOwners, ← relabelAll_eq_map, acceptsAll_relabelAll]
    exact acceptsAll_fillAll rs fillings

mutual

theorem outline_eq_of_accepts : (r c : TypeRef) → r.accepts c = true → c.accepts r = true →
    r.outline = c.outline
  | .generic _, .generic _, _, _ => rfl
  | .named _ _ xs, .named _ _ ys, forth, back => by
      rw [accepts_named_iff] at forth back
      rw [outline_named, outline_named, forth.1, map_outline_eq_of_acceptsAll xs ys forth.2 back.2]

theorem map_outline_eq_of_acceptsAll : (rs cs : List TypeRef) → acceptsAll rs cs = true →
    acceptsAll cs rs = true → rs.map outline = cs.map outline
  | [], [], _, _ => rfl
  | r :: rs, c :: cs, forth, back => by
      rw [acceptsAll_cons_iff] at forth back
      rw [List.map_cons, List.map_cons, outline_eq_of_accepts r c forth.1 back.1,
        map_outline_eq_of_acceptsAll rs cs forth.2 back.2]

end

theorem acceptsAll_of_map_outline_eq {rs cs : List TypeRef}
    (same : rs.map outline = cs.map outline) : acceptsAll rs cs = true := by
  rw [← acceptsAll_relabelAll (fun _ => "") (fun _ => "") rs cs, relabelAll_eq_map, ← outline,
    ← same, outline, ← relabelAll_eq_map, acceptsAll_relabelAll]
  exact acceptsAll_refl rs

end TypeRef

namespace Member

variable {m c d : Member}

theorem accepts_iff :
    m.accepts c = true ↔ m.name = c.name ∧ TypeRef.acceptsAll m.parameters c.parameters = true := by
  rw [accepts, Bool.and_eq_true, decide_eq_true_eq]

theorem accepts_self (m : Member) : m.accepts m = true :=
  accepts_iff.mpr ⟨rfl, TypeRef.acceptsAll_refl m.parameters⟩

theorem accepts_of_accepts (lower : m.accepts c = true) (upper : c.accepts d = true) :
    m.accepts d = true := by
  rw [accepts_iff] at lower upper ⊢
  exact ⟨lower.1.trans upper.1, TypeRef.acceptsAll_trans _ _ _ lower.2 upper.2⟩

theorem accepts_of_substitute {types : String → TypeRef} (sameName : c.name = m.name)
    (substituted : c.parameters = m.parameters.map (·.substitute types)) : m.accepts c = true := by
  rw [accepts_iff, substituted, ← TypeRef.fillAll_eq_map]
  exact ⟨sameName.symm, TypeRef.acceptsAll_fillAll _ _⟩

theorem accepts_and_accepts_iff :
    m.accepts c = true ∧ c.accepts m = true ↔
      m.name = c.name ∧ m.parameters.map TypeRef.outline = c.parameters.map TypeRef.outline := by
  rw [accepts_iff, accepts_iff]
  constructor
  · rintro ⟨⟨sameName, forth⟩, _, back⟩
    exact ⟨sameName, TypeRef.map_outline_eq_of_acceptsAll _ _ forth back⟩
  · rintro ⟨sameName, same⟩
    refine ⟨⟨sameName, ?_⟩, sameName.symm, ?_⟩
    · exact TypeRef.acceptsAll_of_map_outline_eq same
    · exact TypeRef.acceptsAll_of_map_outline_eq same.symm

/-- A member accepts the members of its name whose parameters arise from its own by
replacing each placeholder at its place, owners left aside. So acceptance is a preorder, all
that is got by substitution is accepted, and members that accept each other have the same
parameters up to owners and names of placeholders. -/
theorem accepts_preorder :
    (∀ r c : TypeRef,
        r.accepts c = true ↔ ∃ filling, (r.fill filling).withoutOwners = c.withoutOwners) ∧
      (∀ m c : Member, m.accepts c = true ↔ m.name = c.name ∧
        ∃ fillings, (TypeRef.fillAll fillings m.parameters).map TypeRef.withoutOwners =
          c.parameters.map TypeRef.withoutOwners) ∧
      IsPreorder Member (fun m c => m.accepts c = true) ∧
      (∀ (m c : Member) (types : String → TypeRef), c.name = m.name →
        c.parameters = m.parameters.map (·.substitute types) → m.accepts c = true) ∧
      ∀ m c : Member, m.accepts c = true ∧ c.accepts m = true ↔
        m.name = c.name ∧
          m.parameters.map TypeRef.outline = c.parameters.map TypeRef.outline := by
  refine ⟨TypeRef.accepts_iff_exists_fill, ?_, ?_, ?_, ?_⟩
  · intro m c
    rw [accepts_iff, TypeRef.acceptsAll_iff_exists_fillAll]
  · exact { refl := accepts_self, trans := fun _ _ _ => accepts_of_accepts }
  · exact fun m c types => accepts_of_substitute
  · exact fun m c => accepts_and_accepts_iff

-- Two places of one placeholder may be filled with different types.
example :
    (Member.method "Put" [.generic "K", .generic "K"] none).accepts
      (Member.method "Put" [.named ⟨none, "Key"⟩ "App" [], .generic "V"] none) = true := by
  decide

end Member

end Architecture
