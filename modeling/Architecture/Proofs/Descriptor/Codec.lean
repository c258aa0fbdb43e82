import Architecture.Proofs.Data.Record
import Architecture.Proofs.Name

/-!
# Descriptors that are written and read

Every descriptor whose type names were read from texts is read back as it was written,
however deep its references are nested and whatever is left out because it is empty.
Names that are read come from texts, so what was read once is read again from what is
written of it.
-/

namespace Architecture

open Data

namespace TypeName

theorem decode?_encode {n : TypeName} (parsed : n.IsParsed) : decode? n.encode = some n := by
  rw [encode, decode?, Value.text?, Option.map_some, parse_full parsed]

theorem yields_decode? : Yields decode? IsParsed := by
  intro v n decoded
  rcases Option.map_eq_some_iff.mp decoded with ⟨text, _, same⟩
  exact ⟨text, same⟩

end TypeName

namespace TypeRef

/-- All names in the reference were read from texts. -/
def NamesParsed (r : TypeRef) : Prop := ∀ k ∈ r.keys, k.name.IsParsed

theorem namesParsed_generic (parameter : String) : (TypeRef.generic parameter).NamesParsed := by
  intro k member
  cases member

theorem namesParsed_named {name : TypeName} {owner : String} {args : List TypeRef} :
    (TypeRef.named name owner args).NamesParsed ↔
      name.IsParsed ∧ ∀ r ∈ args, r.NamesParsed := by
  simp only [NamesParsed, keys, keysAll_eq_flatMap, List.forall_mem_cons, List.mem_flatMap,
    forall_exists_index, and_imp]
  refine and_congr_right fun _ => ?_
  exact ⟨fun all r rMember k kMember => all k r rMember kMember,
    fun all k r rMember kMember => all r rMember k kMember⟩

theorem encodeAll_eq_map (rs : List TypeRef) : encodeAll rs = rs.map encode := by
  induction rs with
  | nil => rfl
  | cons r rest inductionHypothesis => rw [encodeAll, inductionHypothesis, List.map_cons]

theorem decodeArgs_cons {name : String} (v : Value) (rest : List (String × Value))
    (other : name ≠ "args") : decodeArgs ((name, v) :: rest) = decodeArgs rest := by
  cases v <;> simp [decodeArgs, other]

theorem decodeArgs_named (name owner : String) (items : List Value) :
    single? [] (decodeArgs (("type", .text name) :: (textField "module" owner ++
      listField "args" items))) = decodeAll? items := by
  have afterOwner : decodeArgs (textField "module" owner ++ listField "args" items) =
      decodeArgs (listField "args" items) := by
    unfold textField
    split
    · rfl
    · exact decodeArgs_cons _ _ (by decide)
  rw [decodeArgs_cons _ _ (by decide), afterOwner]
  cases items with
  | nil => simp [listField, decodeArgs, single?, decodeAll?]
  | cons item rest => simp [listField, decodeArgs, single?]

/-- The three fields of a named reference are read one by one, and it is no placeholder. -/
theorem decode?_record (name owner : String) (items : List Value) :
    decode? (.record (("type", .text name) :: (textField "module" owner ++
        listField "args" items))) =
      (decodeAll? items).map (.named (TypeName.parse name) owner) := by
  rw [decode?, decodeArgs_named]
  by_cases noOwner : owner = "" <;> by_cases noArgs : items = [] <;>
    cases read : decodeAll? items <;>
    simp [generic?, textField, listField, noOwner, noArgs, Value.text?, single?, assemble?]

mutual

theorem decode?_encode : (r : TypeRef) → r.NamesParsed → decode? r.encode = some r
  | .generic p, _ => by simp [encode, decode?, generic?]
  | .named name owner args, parsed => by
      rcases namesParsed_named.mp parsed with ⟨nameParsed, argsParsed⟩
      rw [encode, TypeName.encode, decode?_record, decodeAll?_encodeAll args argsParsed,
        Option.map_some, TypeName.parse_full nameParsed]

theorem decodeAll?_encodeAll : (rs : List TypeRef) → (∀ r ∈ rs, r.NamesParsed) →
    decodeAll? (encodeAll rs) = some rs
  | [], _ => rfl
  | r :: rest, parsed => by
      rcases List.forall_mem_cons.mp parsed with ⟨first, others⟩
      rw [encodeAll, decodeAll?, decode?_encode r first, decodeAll?_encodeAll rest others]

end

theorem single?_eq_some {α : Type} {missing a : α} {readings : List (Option α)}
    (read : single? missing readings = some a) : a = missing ∨ some a ∈ readings := by
  unfold single? at read
  split at read
  next =>
    cases read
    exact .inl rfl
  next found => exact .inr (read ▸ List.mem_cons_self)
  next => cases read

theorem assemble?_eq_some {names : Option TypeName} {owner : Option String}
    {args : Option (List TypeRef)} {r : TypeRef} (assembled : assemble? names owner args = some r) :
    ∃ n o rs, names = some n ∧ args = some rs ∧ r = .named n o rs := by
  rcases Option.bind_eq_some_iff.mp assembled with ⟨n, named, onward⟩
  rcases Option.bind_eq_some_iff.mp onward with ⟨o, _, onward⟩
  rcases Option.bind_eq_some_iff.mp onward with ⟨rs, taken, same⟩
  cases same
  exact ⟨n, o, rs, named, taken, rfl⟩

theorem isParsed_of_single? {fields : List (String × Value)} {n : TypeName}
    (read : (single? none (fields.filterMap fun (k, v) =>
      if k = "type" then some (v.text?.map (some ∘ TypeName.parse)) else none)).join = some n) :
    n.IsParsed := by
  rw [Option.join_eq_some_iff] at read
  rcases single?_eq_some read with missing | member
  · cases missing
  · rcases List.mem_filterMap.mp member with ⟨⟨k, v⟩, _, reading⟩
    by_cases named : k = "type"
    · simp only [if_pos named, Option.some.injEq, Option.map_eq_some_iff] at reading
      rcases reading with ⟨text, _, same⟩
      exact ⟨text, Option.some.inj same⟩
    · simp only [if_neg named] at reading
      cases reading

theorem namesParsed_of_generic? {v : Value} {r : TypeRef} (read : generic? v = some r) :
    r.NamesParsed := by
  unfold generic? at read
  split at read
  next =>
    split at read
    next =>
      cases read
      exact namesParsed_generic _
    next => cases read
  next => cases read

theorem namesParsed_of_assemble? {names : Option TypeName} {owner : Option String}
    {args : Option (List TypeRef)} {r : TypeRef} (assembled : assemble? names owner args = some r)
    (nameParsed : ∀ n, names = some n → n.IsParsed)
    (argsParsed : ∀ rs, args = some rs → ∀ r ∈ rs, r.NamesParsed) :
    r.NamesParsed := by
  rcases assemble?_eq_some assembled with ⟨n, o, rs, named, taken, rfl⟩
  exact namesParsed_named.mpr ⟨nameParsed n named, argsParsed rs taken⟩

theorem namesParsed_of_decode?_record {fields : List (String × Value)} {r : TypeRef}
    (args : ∀ rs, some rs ∈ decodeArgs fields → ∀ r ∈ rs, r.NamesParsed)
    (decoded : decode? (.record fields) = some r) : r.NamesParsed := by
  rw [decode?, Option.orElse_eq_orElse, Option.orElse_eq_or, Option.or_eq_some_iff] at decoded
  rcases decoded with placeholder | ⟨_, assembled⟩
  · exact namesParsed_of_generic? placeholder
  · apply namesParsed_of_assemble? assembled
    · exact fun n => isParsed_of_single?
    · intro rs read
      rcases single?_eq_some read with rfl | member
      · exact List.forall_mem_nil _
      · exact args rs member

/-- A reference that is written as a list starts with its name. -/
theorem namesParsed_of_assemble?_name {v : Value} {owner : Option String}
    {args : Option (List TypeRef)} {r : TypeRef}
    (assembled : assemble? (TypeName.decode? v) owner args = some r)
    (argsParsed : ∀ rs, args = some rs → ∀ r ∈ rs, r.NamesParsed) : r.NamesParsed :=
  namesParsed_of_assemble? assembled (TypeName.yields_decode? v) argsParsed

theorem forall_mem_noArgs : ∀ rs, some ([] : List TypeRef) = some rs → ∀ r ∈ rs, r.NamesParsed := by
  rintro _ ⟨⟩
  exact List.forall_mem_nil _

/-- Arguments are read from a field of this name that holds a list. -/
theorem mem_decodeArgs_cons {name : String} {v : Value} {rest : List (String × Value)}
    {rs : List TypeRef} (member : some rs ∈ decodeArgs ((name, v) :: rest)) :
    (∃ items, v = .list items ∧ decodeAll? items = some rs) ∨ some rs ∈ decodeArgs rest := by
  by_cases named : name = "args"
  · cases v with
    | list items =>
        rw [decodeArgs, if_pos named, List.mem_cons] at member
        exact member.imp_left fun first => ⟨items, rfl, first.symm⟩
    | _ => simpa [decodeArgs, named] using member
  · rw [decodeArgs_cons v rest named] at member
    exact .inr member

-- The recursion is that of the reader: values, lists of arguments, and fields that hold them.
mutual

theorem namesParsed_of_decode? : (v : Value) → ∀ r, decode? v = some r → r.NamesParsed
  | v => by
      intro r decoded
      unfold decode? at decoded
      split at decoded
      next fields =>
        exact namesParsed_of_decode?_record (namesParsed_of_decodeArgs fields)
          (by rw [decode?]; exact decoded)
      next => exact namesParsed_of_assemble?_name decoded forall_mem_noArgs
      next => exact namesParsed_of_assemble?_name decoded forall_mem_noArgs
      next args => exact namesParsed_of_assemble?_name decoded (namesParsed_of_decodeAll? args)
      next => cases decoded

theorem namesParsed_of_decodeAll? : (vs : List Value) →
    ∀ rs, decodeAll? vs = some rs → ∀ r ∈ rs, r.NamesParsed
  | [] => forall_mem_noArgs
  | v :: rest => by
      intro rs decoded
      rw [decodeAll?] at decoded
      split at decoded
      next r others first later =>
        cases decoded
        exact List.forall_mem_cons.mpr
          ⟨namesParsed_of_decode? v r first, namesParsed_of_decodeAll? rest others later⟩
      next => cases decoded

theorem namesParsed_of_decodeArgs : (fields : List (String × Value)) →
    ∀ rs, some rs ∈ decodeArgs fields → ∀ r ∈ rs, r.NamesParsed
  | [] => fun _ member => by simp [decodeArgs] at member
  | (name, v) :: rest => by
      intro rs member
      rcases mem_decodeArgs_cons member with ⟨items, rfl, read⟩ | later
      · exact namesParsed_of_decodeAll? items rs read
      · exact namesParsed_of_decodeArgs rest rs later

end

theorem yields_decode? : Yields decode? NamesParsed := namesParsed_of_decode?

end TypeRef

namespace NamedRef

def NamesParsed (n : NamedRef) : Prop := n.toRef.NamesParsed

def entries (n : NamedRef) : List (String × Option Value) :=
  [("type", some n.name.encode), ("module", noted n.owner),
    ("args", listed (n.args.map TypeRef.encode))]

theorem encode_eq (n : NamedRef) : n.encode = .record (present n.entries) := by
  simp [encode, toRef, TypeRef.encode, TypeRef.encodeAll_eq_map, entries, present,
    optionalField_noted, optionalField_listed, optionalField_some]

theorem decode?_encode {n : NamedRef} (parsed : n.NamesParsed) : decode? n.encode = some n := by
  rcases TypeRef.namesParsed_named.mp parsed with ⟨nameParsed, argsParsed⟩
  have distinct : ["type", "module", "args"].Nodup := by decide
  have fields : (Value.record (present n.entries)).fields? ["type", "module", "args"] =
      some (present n.entries) := fields?_present rfl distinct
  have name : required? (present n.entries) "type" TypeName.decode? = some n.name :=
    required?_present distinct rfl (TypeName.decode?_encode nameParsed)
  have owner : defaulted? (present n.entries) "module" "" Value.text? = some n.owner :=
    defaulted?_present distinct rfl (noted_elim n.owner)
  have args : defaulted? (present n.entries) "args" [] (Value.listOf? TypeRef.decode?) =
      some n.args :=
    defaulted?_present distinct rfl
      (listed_elim fun r member => TypeRef.decode?_encode r (argsParsed r member))
  simp [decode?, encode_eq, fields, name, owner, args]

theorem yields_decode? : Yields decode? NamesParsed := by
  intro v n decoded
  simp only [decode?, Option.bind_eq_bind, Option.bind_eq_some_iff, Option.pure_def,
    Option.some.injEq] at decoded
  rcases decoded with ⟨fields, -, name, nameRead, owner, -, args, argsRead, rfl⟩
  refine TypeRef.namesParsed_named.mpr ⟨TypeName.yields_decode?.required nameRead, ?_⟩
  exact TypeRef.yields_decode?.listOf.defaulted (by simp) argsRead

end NamedRef

namespace Arguments

theorem eq_of_entries {args other : Arguments} (same : args.entries = other.entries) :
    args = other := by
  cases args
  cases other
  cases same
  rfl

theorem put_last {name value : String} {entries : List (String × String)}
    (greater : ∀ e ∈ entries, compare e.1 name = .lt) :
    put name value entries = entries ++ [(name, value)] := by
  induction entries with
  | nil => rfl
  | cons first rest inductionHypothesis =>
      rcases List.forall_mem_cons.mp greater with ⟨less, others⟩
      have after : compare name first.1 = .gt := Std.OrientedCmp.gt_of_lt less
      rw [put, after, inductionHypothesis others, List.cons_append]

/-- Entries that are in order already are taken over one after the other. -/
theorem ofList_entries (args : Arguments) : ofList args.entries = args := by
  have appended : ∀ (entries : List (String × String)) (start : Arguments),
      (start.entries ++ entries).Pairwise (fun a b => compare a.1 b.1 = .lt) →
        (entries.foldl (fun args e => args.insert e.1 e.2) start).entries =
          start.entries ++ entries := by
    intro entries
    induction entries with
    | nil => simp
    | cons first rest inductionHypothesis =>
        intro start sorted
        rcases first with ⟨name, value⟩
        have greater : ∀ e ∈ start.entries, compare e.1 name = .lt := by
          intro e member
          exact (List.pairwise_append.mp sorted).2.2 e member _ List.mem_cons_self
        have next : (start.insert name value).entries = start.entries ++ [(name, value)] :=
          put_last greater
        rw [List.foldl_cons, inductionHypothesis, next, List.append_assoc, List.singleton_append]
        rwa [next, List.append_assoc, List.singleton_append]
  exact eq_of_entries (appended args.entries {} args.sorted)

end Arguments

namespace Attribute

def entries (a : Attribute) : List (String × Option Value) :=
  [("name", some a.name.encode),
    ("arguments", if a.arguments.entries.isEmpty then none
      else some (.record (a.arguments.entries.map fun (k, v) => (k, .text v))))]

theorem encode_eq (a : Attribute) : a.encode = .record (present a.entries) := by
  unfold encode entries present
  split <;> rfl

theorem decode?_encode {a : Attribute} (parsed : a.name.IsParsed) : decode? a.encode = some a := by
  have distinct : ["name", "arguments"].Nodup := by decide
  have fields : (Value.record (present a.entries)).fields? ["name", "arguments"] =
      some (present a.entries) := fields?_present rfl distinct
  have name : required? (present a.entries) "name" TypeName.decode? = some a.name :=
    required?_present distinct rfl (TypeName.decode?_encode parsed)
  have arguments : defaulted? (present a.entries) "arguments" (Arguments.ofList [])
      decodeArguments? = some a.arguments := by
    refine defaulted?_present distinct rfl ?_
    split
    next empty =>
      rw [List.isEmpty_iff] at empty
      rw [Option.elim_none, ← empty, Arguments.ofList_entries]
    next =>
      have read : (a.arguments.entries.map fun (k, v) => (k, Value.text v)).mapM
          (fun (k, v) => v.text?.map (k, ·)) = some a.arguments.entries :=
        mapM_map_eq_some fun _ _ => rfl
      simp [decodeArguments?, Value.record?, read, Arguments.ofList_entries]
  simp [decode?, encode_eq, fields, name, arguments]

theorem yields_decode? : Yields decode? fun a => a.name.IsParsed := by
  intro v a decoded
  simp only [decode?, Option.bind_eq_bind, Option.bind_eq_some_iff, Option.pure_def,
    Option.some.injEq] at decoded
  rcases decoded with ⟨fields, -, name, nameRead, arguments, -, rfl⟩
  exact TypeName.yields_decode?.required nameRead

end Attribute

namespace Member

/-- All type names in the member were read from texts. -/
structure NamesParsed (m : Member) : Prop where
  parameters : ∀ r ∈ m.parameters, r.NamesParsed
  valueType : ∀ r ∈ m.valueType, r.NamesParsed
  attributes : ∀ a ∈ m.attributes, a.name.IsParsed
  implements : ∀ n ∈ m.implements, n.NamesParsed

def entries (m : Member) : List (String × Option Value) :=
  [("name", some (.text m.name)), ("kind", some (.text m.kind.name)),
    ("parameters", listed (m.parameters.map TypeRef.encode)),
    ("type", m.valueType.map TypeRef.encode),
    ("attributes", listed (m.attributes.map Attribute.encode)),
    ("interface", m.implements.map NamedRef.encode)]

theorem encode_eq (m : Member) : m.encode = .record (present m.entries) := by
  simp [encode, TypeRef.encodeAll_eq_map, entries, present, optionalField_listed,
    optionalField_some]

theorem decode?_encode {m : Member} (parsed : m.NamesParsed) : decode? m.encode = some m := by
  have distinct : fieldNames.Nodup := by decide
  have fields : (Value.record (present m.entries)).fields? fieldNames =
      some (present m.entries) := fields?_present rfl distinct
  have name : required? (present m.entries) "name" Value.text? = some m.name :=
    required?_present distinct rfl rfl
  have kind : required? (present m.entries) "kind" (choice? MemberKind.ofName?) = some m.kind :=
    required?_present distinct rfl (by cases m.kind <;> rfl)
  have parameters : defaulted? (present m.entries) "parameters" []
      (Value.listOf? TypeRef.decode?) = some m.parameters :=
    defaulted?_present distinct rfl
      (listed_elim fun r member => TypeRef.decode?_encode r (parsed.parameters r member))
  have valueType : defaulted? (present m.entries) "type" none
      (Value.optional? TypeRef.decode?) = some m.valueType :=
    defaulted?_present distinct rfl
      (optional_elim rfl fun r member => TypeRef.decode?_encode r (parsed.valueType r member))
  have attributes : defaulted? (present m.entries) "attributes" []
      (Value.listOf? Attribute.decode?) = some m.attributes :=
    defaulted?_present distinct rfl
      (listed_elim fun a member => Attribute.decode?_encode (parsed.attributes a member))
  have implements : defaulted? (present m.entries) "interface" none
      (Value.optional? NamedRef.decode?) = some m.implements :=
    defaulted?_present distinct rfl
      (optional_elim rfl fun n member => NamedRef.decode?_encode (parsed.implements n member))
  simp [decode?, encode_eq, fields, name, kind, parameters, valueType, attributes, implements]

theorem yields_decode? : Yields decode? NamesParsed := by
  intro v m decoded
  simp only [decode?, Option.bind_eq_bind, Option.bind_eq_some_iff, Option.pure_def,
    Option.some.injEq] at decoded
  rcases decoded with ⟨fields, -, name, -, kind, -, parameters, parametersRead, valueType,
    valueTypeRead, attributes, attributesRead, implements, implementsRead, rfl⟩
  exact {
    parameters := TypeRef.yields_decode?.listOf.defaulted (by simp) parametersRead
    valueType := TypeRef.yields_decode?.optional.defaulted (by simp) valueTypeRead
    attributes := Attribute.yields_decode?.listOf.defaulted (by simp) attributesRead
    implements := NamedRef.yields_decode?.optional.defaulted (by simp) implementsRead }

end Member

namespace TypeDescriptor

/-- All type names in the descriptor were read from texts. -/
structure NamesParsed (t : TypeDescriptor) : Prop where
  name : t.name.IsParsed
  base : ∀ r ∈ t.base, r.NamesParsed
  interfaces : ∀ r ∈ t.interfaces, r.NamesParsed
  members : ∀ m ∈ t.members, m.NamesParsed
  attributes : ∀ a ∈ t.attributes, a.name.IsParsed
  enclosing : ∀ n ∈ t.enclosing, n.IsParsed

def entries (t : TypeDescriptor) : List (String × Option Value) :=
  [("name", some t.name.encode), ("module", noted t.owner), ("kind", some (.text t.kind.name)),
    ("access", some (.text t.access.name)), ("base_type", t.base.map TypeRef.encode),
    ("interfaces", listed (t.interfaces.map TypeRef.encode)),
    ("members", listed (t.members.map Member.encode)),
    ("attributes", listed (t.attributes.map Attribute.encode)),
    ("declaring_type", t.enclosing.map TypeName.encode),
    ("generic_parameters", listed (t.genericParameters.map Value.text))]

theorem encode_eq (t : TypeDescriptor) : t.encode = .record (present t.entries) := by
  simp [encode, TypeRef.encodeAll_eq_map, entries, present, optionalField_listed,
    optionalField_noted, optionalField_some]

theorem decode?_encode {t : TypeDescriptor} (parsed : t.NamesParsed) :
    decode? t.encode = some t := by
  have distinct : fieldNames.Nodup := by decide
  have fields : (Value.record (present t.entries)).fields? fieldNames =
      some (present t.entries) := fields?_present rfl distinct
  have name : required? (present t.entries) "name" TypeName.decode? = some t.name :=
    required?_present distinct rfl (TypeName.decode?_encode parsed.name)
  have owner : defaulted? (present t.entries) "module" "" Value.text? = some t.owner :=
    defaulted?_present distinct rfl (noted_elim t.owner)
  have kind : required? (present t.entries) "kind" (choice? TypeKind.ofName?) = some t.kind :=
    required?_present distinct rfl (by cases t.kind <;> rfl)
  have access : required? (present t.entries) "access" (choice? AccessLevel.ofName?) =
      some t.access :=
    required?_present distinct rfl (by cases t.access <;> rfl)
  have base : defaulted? (present t.entries) "base_type" none
      (Value.optional? TypeRef.decode?) = some t.base :=
    defaulted?_present distinct rfl
      (optional_elim rfl fun r member => TypeRef.decode?_encode r (parsed.base r member))
  have interfaces : defaulted? (present t.entries) "interfaces" []
      (Value.listOf? TypeRef.decode?) = some t.interfaces :=
    defaulted?_present distinct rfl
      (listed_elim fun r member => TypeRef.decode?_encode r (parsed.interfaces r member))
  have members : defaulted? (present t.entries) "members" []
      (Value.listOf? Member.decode?) = some t.members :=
    defaulted?_present distinct rfl
      (listed_elim fun m member => Member.decode?_encode (parsed.members m member))
  have attributes : defaulted? (present t.entries) "attributes" []
      (Value.listOf? Attribute.decode?) = some t.attributes :=
    defaulted?_present distinct rfl
      (listed_elim fun a member => Attribute.decode?_encode (parsed.attributes a member))
  have enclosing : defaulted? (present t.entries) "declaring_type" none
      (Value.optional? TypeName.decode?) = some t.enclosing :=
    defaulted?_present distinct rfl
      (optional_elim rfl fun n member => TypeName.decode?_encode (parsed.enclosing n member))
  have genericParameters : defaulted? (present t.entries) "generic_parameters" []
      (Value.listOf? Value.text?) = some t.genericParameters :=
    defaulted?_present distinct rfl (listed_elim fun _ _ => rfl)
  simp [decode?, encode_eq, fields, name, owner, kind, access, base, interfaces, members,
    attributes, enclosing, genericParameters]

theorem yields_decode? : Yields decode? NamesParsed := by
  intro v t decoded
  simp only [decode?, Option.bind_eq_bind, Option.bind_eq_some_iff, Option.pure_def,
    Option.some.injEq] at decoded
  rcases decoded with ⟨fields, -, name, nameRead, owner, -, kind, -, access, -, base, baseRead,
    interfaces, interfacesRead, members, membersRead, attributes, attributesRead, enclosing,
    enclosingRead, genericParameters, -, rfl⟩
  exact {
    name := TypeName.yields_decode?.required nameRead
    base := TypeRef.yields_decode?.optional.defaulted (by simp) baseRead
    interfaces := TypeRef.yields_decode?.listOf.defaulted (by simp) interfacesRead
    members := Member.yields_decode?.listOf.defaulted (by simp) membersRead
    attributes := Attribute.yields_decode?.listOf.defaulted (by simp) attributesRead
    enclosing := TypeName.yields_decode?.optional.defaulted (by simp) enclosingRead }

end TypeDescriptor

theorem ModuleReference.decode?_encode (r : ModuleReference) : decode? r.encode = some r := by
  have distinct : ["name", "version"].Nodup := by decide
  let entries := [("name", some (Value.text r.name)), ("version", r.version.map Value.text)]
  have written : r.encode = .record (present entries) := by
    simp [encode, entries, present, optionalField_some]
  have fields : (Value.record (present entries)).fields? ["name", "version"] =
      some (present entries) := fields?_present rfl distinct
  have name : required? (present entries) "name" Value.text? = some r.name :=
    required?_present distinct rfl rfl
  have version : defaulted? (present entries) "version" none (Value.optional? Value.text?) =
      some r.version :=
    defaulted?_present distinct rfl (optional_elim rfl fun _ _ => rfl)
  simp [decode?, written, fields, name, version]

namespace ModuleDescriptor

/-- All type names in the module were read from texts. -/
def NamesParsed (m : ModuleDescriptor) : Prop := ∀ t ∈ m.types, t.NamesParsed

def entries (m : ModuleDescriptor) : List (String × Option Value) :=
  [("name", some (.text m.name)), ("version", m.version.map Value.text),
    ("references", some (.list (m.references.map ModuleReference.encode))),
    ("types", some (.list (m.types.map TypeDescriptor.encode)))]

theorem encode_eq (m : ModuleDescriptor) : m.encode = .record (present m.entries) := by
  simp [encode, entries, present, optionalField_some]

theorem decode?_encode {m : ModuleDescriptor} (parsed : m.NamesParsed) :
    decode? m.encode = some m := by
  have distinct : ["name", "version", "references", "types"].Nodup := by decide
  have fields : (Value.record (present m.entries)).fields?
      ["name", "version", "references", "types"] = some (present m.entries) :=
    fields?_present rfl distinct
  have name : required? (present m.entries) "name" Value.text? = some m.name :=
    required?_present distinct rfl rfl
  have version : defaulted? (present m.entries) "version" none (Value.optional? Value.text?) =
      some m.version :=
    defaulted?_present distinct rfl (optional_elim rfl fun _ _ => rfl)
  have references : defaulted? (present m.entries) "references" []
      (Value.listOf? ModuleReference.decode?) = some m.references :=
    defaulted?_present distinct rfl (listOf?_map fun r _ => r.decode?_encode)
  have types : defaulted? (present m.entries) "types" []
      (Value.listOf? TypeDescriptor.decode?) = some m.types :=
    defaulted?_present distinct rfl
      (listOf?_map fun t member => TypeDescriptor.decode?_encode (parsed t member))
  simp [decode?, encode_eq, fields, name, version, references, types]

theorem yields_decode? : Yields decode? NamesParsed := by
  intro v m decoded
  simp only [decode?, Option.bind_eq_bind, Option.bind_eq_some_iff, Option.pure_def,
    Option.some.injEq] at decoded
  rcases decoded with ⟨fields, -, name, -, version, -, references, -, types, typesRead, rfl⟩
  exact TypeDescriptor.yields_decode?.listOf.defaulted (by simp) typesRead

end ModuleDescriptor

end Architecture
