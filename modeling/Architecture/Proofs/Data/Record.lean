import Architecture.Descriptor.Codec

/-!
# Records that are written and read

A record is written from a list of fields, of which some may have nothing to write. If
no two of them share a name, each is found again when the record is read, and a field
that was left out reads as what stands for a missing one. The other way round, whatever
the readers of the fields guarantee holds of a record that was read.
-/

namespace Architecture.Data

/-- The fields that have something to write. -/
def present (entries : List (String × Option Value)) : List (String × Value) :=
  entries.flatMap fun (name, v) => optionalField name v

/-- The value of a list, unless it is empty. -/
def listed (items : List Value) : Option Value :=
  if items.isEmpty then none else some (.list items)

/-- The value of a text, unless it is empty. -/
def noted (text : String) : Option Value :=
  if text = "" then none else some (.text text)

section Present

variable {entries : List (String × Option Value)} {name : String}

theorem optionalField_some (name : String) (v : Value) :
    optionalField name (some v) = [(name, v)] := rfl

theorem optionalField_listed (name : String) (items : List Value) :
    optionalField name (listed items) = listField name items := by
  unfold listed listField
  split <;> rfl

theorem optionalField_noted (name text : String) :
    optionalField name (noted text) = textField name text := by
  unfold noted textField
  split <;> rfl

theorem names_present_sublist (entries : List (String × Option Value)) :
    ((present entries).map Prod.fst).Sublist (entries.map Prod.fst) := by
  induction entries with
  | nil => exact .refl _
  | cons entry rest inductionHypothesis =>
      rcases entry with ⟨name, v⟩
      cases v with
      | none => exact inductionHypothesis.cons name
      | some v => exact inductionHypothesis.cons_cons name

theorem lookup_present (distinct : (entries.map Prod.fst).Nodup) (name : String) :
    (present entries).lookup name = (entries.lookup name).join := by
  induction entries with
  | nil => rfl
  | cons entry rest inductionHypothesis =>
      rcases entry with ⟨first, v⟩
      rcases List.nodup_cons.mp distinct with ⟨absent, distinct⟩
      have follow := inductionHypothesis distinct
      have split : present ((first, v) :: rest) = optionalField first v ++ present rest := rfl
      rw [split, List.lookup_append, List.lookup_cons]
      by_cases same : name = first
      · subst same
        have missing : (present rest).lookup name = none := by
          rw [List.lookup_eq_none_iff]
          intro field member
          have known := (names_present_sublist rest).subset (List.mem_map_of_mem member)
          rw [bne_iff_ne]
          rintro rfl
          exact absent known
        rw [missing, beq_self_eq_true]
        cases v <;> simp [optionalField]
      · have differs : (name == first) = false := beq_eq_false_iff_ne.mpr same
        rw [follow, differs]
        cases v <;> simp [optionalField, List.lookup_cons, differs]

theorem fields?_present {names : List String} (same : entries.map Prod.fst = names)
    (distinct : names.Nodup) :
    (Value.record (present entries)).fields? names = some (present entries) := by
  have sublist := names_present_sublist entries
  rw [same] at sublist
  have known : (present entries).filter (names.contains ·.1) = present entries := by
    rw [List.filter_eq_self]
    intro field member
    rw [List.contains_iff_mem]
    exact sublist.subset (List.mem_map_of_mem member)
  simp only [Value.fields?, known, if_pos (sublist.nodup distinct)]

variable {α : Type} {inner? : Value → Option α} {a missing : α}

theorem required?_present (distinct : (entries.map Prod.fst).Nodup) {v : Value}
    (written : entries.lookup name = some (some v)) (read : inner? v = some a) :
    required? (present entries) name inner? = some a := by
  rw [required?, lookup_present distinct, written, Option.join_some, Option.bind_some, read]

theorem defaulted?_present (distinct : (entries.map Prod.fst).Nodup) {v : Option Value}
    (written : entries.lookup name = some v) (read : v.elim (some missing) inner? = some a) :
    defaulted? (present entries) name missing inner? = some a := by
  rw [defaulted?, lookup_present distinct, written, Option.join_some]
  cases v with
  | none => exact read
  | some v => exact read

end Present

section Readers

variable {α β : Type} {inner? : Value → Option α} {encode : α → Value}

theorem mapM_map_eq_some {f : β → Option α} {g : α → β} {xs : List α}
    (inverse : ∀ x ∈ xs, f (g x) = some x) : (xs.map g).mapM f = some xs := by
  induction xs with
  | nil => rfl
  | cons x rest inductionHypothesis =>
      rw [List.map_cons, List.mapM_cons, inverse x List.mem_cons_self,
        inductionHypothesis fun y member => inverse y (List.mem_cons_of_mem x member)]
      rfl

theorem listOf?_map {xs : List α} (inverse : ∀ x ∈ xs, inner? (encode x) = some x) :
    (Value.list (xs.map encode)).listOf? inner? = some xs :=
  mapM_map_eq_some inverse

theorem listed_elim {xs : List α} (inverse : ∀ x ∈ xs, inner? (encode x) = some x) :
    (listed (xs.map encode)).elim (some []) (Value.listOf? inner?) = some xs := by
  cases xs with
  | nil => rfl
  | cons x rest => exact listOf?_map inverse

theorem noted_elim (text : String) : (noted text).elim (some "") Value.text? = some text := by
  by_cases empty : text = ""
  · rw [noted, if_pos empty, empty]
    rfl
  · rw [noted, if_neg empty]
    rfl

/-- What does not read null is not written as null, which would read as nothing. -/
theorem optional_elim (refuses : inner? .null = none) {x : Option α}
    (inverse : ∀ y ∈ x, inner? (encode y) = some y) :
    (x.map encode).elim (some none) (Value.optional? inner?) = some x := by
  cases x with
  | none => rfl
  | some y =>
      have read := inverse y rfl
      rw [Option.map_some, Option.elim_some]
      unfold Value.optional?
      split
      next null =>
        rw [null, refuses] at read
        cases read
      next => rw [read, Option.map_some]

/-- Whatever the reader reads has the property. -/
def Yields (inner? : Value → Option α) (holds : α → Prop) : Prop :=
  ∀ v a, inner? v = some a → holds a

namespace Yields

variable {holds : α → Prop} {fields : List (String × Value)} {name : String} {a missing : α}

theorem required (yields : Yields inner? holds) (read : required? fields name inner? = some a) :
    holds a := by
  rcases Option.bind_eq_some_iff.mp read with ⟨v, _, read⟩
  exact yields v a read

theorem defaulted (yields : Yields inner? holds) (default : holds missing)
    (read : defaulted? fields name missing inner? = some a) : holds a := by
  unfold defaulted? at read
  split at read
  next v _ => exact yields v a read
  next =>
    cases read
    exact default

theorem listOf (yields : Yields inner? holds) :
    Yields (Value.listOf? inner?) fun xs => ∀ x ∈ xs, holds x := by
  intro v xs decoded
  rcases Option.bind_eq_some_iff.mp decoded with ⟨items, -, read⟩
  clear decoded
  induction items generalizing xs with
  | nil =>
      cases read
      exact fun x member => absurd member List.not_mem_nil
  | cons item rest inductionHypothesis =>
      rw [List.mapM_cons] at read
      rcases Option.bind_eq_some_iff.mp read with ⟨x, first, onward⟩
      rcases Option.bind_eq_some_iff.mp onward with ⟨others, follow, same⟩
      cases same
      exact List.forall_mem_cons.mpr ⟨yields item x first, inductionHypothesis others follow⟩

theorem optional (yields : Yields inner? holds) :
    Yields (Value.optional? inner?) fun x => ∀ y ∈ x, holds y := by
  intro v x read y member
  unfold Value.optional? at read
  split at read
  next =>
    cases read
    cases member
  next =>
    rcases Option.map_eq_some_iff.mp read with ⟨z, inner, rfl⟩
    cases member
    exact yields v y inner

end Yields

end Readers

end Architecture.Data
