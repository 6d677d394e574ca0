import GridAudit.Definition.Json
import GridAudit.Proofs.JsonText

/-!
# Definitions are read back as they are printed

The text of a definition without real numbers is read as that definition again, as long as its JSON
is nested no deeper than the reader goes. All three ways to tell choices apart are undone: the kind
of a node or body stands first among its members and is taken off before the others are looked up,
and the type of a constant stands beside its value. What a definition may leave out is printed too,
so no default is ever needed.
-/

namespace GridAudit

/-! ## Depth -/

namespace Json

mutual

/-- How many arrays and objects of a value are within one another at most. -/
def nesting : Json → Nat
  | .array items => nestingOfAll items + 1
  | .object members => nestingOfMembers members + 1
  | .torn part _ => part.nesting
  | _ => 0

/-- The largest depth of a list of values. -/
def nestingOfAll : List Json → Nat
  | [] => 0
  | j :: rest => max j.nesting (nestingOfAll rest)

/-- The largest depth of the values of a list of members. -/
def nestingOfMembers : List (Json × Json) → Nat
  | [] => 0
  | (_, j) :: rest => max j.nesting (nestingOfMembers rest)

end

variable {items : List Json} {members : List (String × Json)}

/-- An item is nested less than its array. -/
theorem nesting_lt_of_mem_array {j : Json} (h : j ∈ items) : j.nesting < (array items).nesting := by
  have hle : j.nesting ≤ nestingOfAll items := by
    induction items with
    | nil => contradiction
    | cons first rest ih =>
      rw [nestingOfAll]
      rcases List.mem_cons.mp h with rfl | h
      · exact Nat.le_max_left ..
      · exact Nat.le_trans (ih h) (Nat.le_max_right ..)
  exact Nat.lt_succ_of_le hle

/-- The value of a member is nested less than its record. -/
theorem nesting_lt_of_mem_record {j : Json} (h : j ∈ members.map Prod.snd) :
    j.nesting < (record members).nesting := by
  have hle : j.nesting ≤ nestingOfMembers (members.map fun m => (text m.1, m.2)) := by
    induction members with
    | nil => contradiction
    | cons first rest ih =>
      rw [List.map_cons, nestingOfMembers]
      rcases List.mem_cons.mp h with rfl | h
      · exact Nat.le_max_left ..
      · exact Nat.le_trans (ih h) (Nat.le_max_right ..)
  exact Nat.lt_succ_of_le hle

mutual

/-- A value that is printed without loss has no fault where it is not nested too deep. -/
theorem faultWithin_of_printable (j : Json) (h : j.Printable) {depth : Nat}
    (hdepth : depth + j.nesting ≤ depthLimit) : j.faultWithin depth = none := by
  cases j with
  | null | bool => rfl
  | number n =>
    obtain ⟨i, rfl⟩ := h
    rw [faultWithin, JsonNumber.value?_ofInt]
    rfl
  | string s => exact if_pos h
  | array items =>
    simp only [nesting] at hdepth
    have henter : depth < depthLimit := by omega
    simp only [faultWithin, henter, ↓reduceIte]
    exact faultOfItems_of_printable items h (by omega)
  | object members =>
    simp only [nesting] at hdepth
    have henter : depth < depthLimit := by omega
    simp only [faultWithin, henter, ↓reduceIte]
    exact faultOfMembers_of_printable members h (by omega)
  | absent | torn => exact h.elim

/-- Values that are printed without loss have no fault where they are not nested too deep. -/
theorem faultOfItems_of_printable (items : List Json) (h : AllPrintable items) {depth : Nat}
    (hdepth : depth + nestingOfAll items ≤ depthLimit) : faultOfItems depth items = none := by
  cases items with
  | nil => rfl
  | cons j rest =>
    simp only [nestingOfAll] at hdepth
    rw [faultOfItems, faultWithin_of_printable j h.1 (by omega), Option.none_or]
    exact faultOfItems_of_printable rest h.2 (by omega)

/-- Members that are printed without loss have no fault where they are not nested too deep. -/
theorem faultOfMembers_of_printable (members : List (Json × Json))
    (h : AllMembersPrintable members) {depth : Nat}
    (hdepth : depth + nestingOfMembers members ≤ depthLimit) :
    faultOfMembers depth members = none := by
  cases members with
  | nil => rfl
  | cons member rest =>
    obtain ⟨key, j⟩ := member
    obtain ⟨⟨s, rfl⟩, hj, hrest⟩ := h
    have hkey : (text s).keyFault = none := rfl
    simp only [nestingOfMembers] at hdepth
    rw [faultOfMembers, hkey, faultWithin_of_printable j hj (by omega), Option.none_or,
      Option.none_or]
    exact faultOfMembers_of_printable rest hrest (by omega)

end

/-- A list of values each of which is printed without loss. -/
theorem allPrintable_of_forall (h : ∀ j ∈ items, j.Printable) : AllPrintable items := by
  induction items with
  | nil => trivial
  | cons j rest ih =>
    obtain ⟨hj, hrest⟩ := List.forall_mem_cons.mp h
    exact ⟨hj, ih hrest⟩

/-- A record is printed without loss exactly when its values are. -/
theorem printable_record_iff :
    (record members).Printable ↔ ∀ m ∈ members, m.2.Printable := by
  have hmembers : AllMembersPrintable (members.map fun m => (text m.1, m.2)) ↔
      ∀ m ∈ members, m.2.Printable := by
    induction members with
    | nil => exact iff_of_true trivial (List.forall_mem_nil _)
    | cons m rest ih =>
      rw [List.forall_mem_cons, List.map_cons, AllMembersPrintable, ih]
      exact and_iff_right ⟨_, rfl⟩
  exact hmembers

end Json

/-- A value that is read straight from the text fits below the limit where it stands; one that is
held as a whole was measured before. -/
def JsonSource.Admits (source : JsonSource) (j : Json) : Prop :=
  ∀ depth, source = .direct depth → depth + j.nesting ≤ Json.depthLimit

namespace JsonSource.Admits

variable {source : JsonSource}

/-- Anything held is admitted. -/
theorem held (j : Json) : JsonSource.held.Admits j := nofun

/-- What is nested less is admitted one level further in. -/
theorem inner {j j' : Json} (h : source.Admits j) (hlt : j'.nesting < j.nesting) :
    source.inner.Admits j' := by
  intro depth hdepth
  cases source with
  | held => contradiction
  | direct outer =>
    obtain rfl := JsonSource.direct.inj hdepth
    have := h outer rfl
    omega

/-- An array or object that is admitted may be entered. -/
theorem mayEnter {j : Json} (h : source.Admits j) (hpos : 0 < j.nesting) : source.mayEnter := by
  cases source with
  | held => rfl
  | direct depth =>
    have := h depth rfl
    exact decide_eq_true (by omega)

end JsonSource.Admits

/-- A value that is admitted and printed without loss can be held. -/
theorem JsonSource.Admits.holdFault {source : JsonSource} {j : Json} (h : source.Admits j)
    (hprintable : j.Printable) : source.holdFault j = none := by
  cases source with
  | held => rfl
  | direct depth => exact Json.faultWithin_of_printable j hprintable (h depth rfl)

/-! ## Records and arrays -/

namespace Json

variable {source : JsonSource} {members : List (String × Json)}

/-- The steps through a record all members of which are fields. -/
def allFields (members : List (String × Json)) : List Step := members.map fun m => .field m.1 m.2

/-- The value of a field is that of the member. -/
@[simp] theorem fieldValue?_allFields (name : String) (members : List (String × Json)) :
    fieldValue? name (allFields members) = members.lookup name := by
  rw [fieldValue?, allFields, List.findSome?_map, List.lookup_eq_findSome?]
  congr 1
  funext m
  simp only [Function.comp_apply, beq_iff_eq, eq_comm (a := name)]

/-- A field that is there is decoded. -/
@[simp] theorem require_some {α : Type} (decode : Json → Except JsonFault α) (j : Json) :
    require decode (some j) = decode j := rfl

/-- A field that is there is decoded, whatever its default. -/
@[simp] theorem orDefault_some {α : Type} (default : α) (decode : Json → Except JsonFault α)
    (j : Json) : orDefault default decode (some j) = decode j := rfl

/-- What was decoded has no fault. -/
@[simp] theorem faultOf?_ok {α : Type} (a : α) : faultOf? (.ok a) = none := rfl

/-- A text is decoded as itself. -/
@[simp] theorem decodeString_text (s : String) : (text s).decodeString = .ok s := rfl

/-- A truth value is decoded as itself. -/
@[simp] theorem decodeBool_bool (b : Bool) : (bool b).decodeBool = .ok b := rfl

/-- A member whose key was not met before is a field, if there is one of that name. -/
theorem memberSteps_cons {names met : List String} {name : String} (j : Json)
    (rest : List (Json × Json)) (hmet : name ∉ met) :
    memberSteps names met ((text name, j) :: rest) =
      if name ∈ names then .field name j :: memberSteps names (name :: met) rest
      else .other j :: memberSteps names met rest := by
  rw [text, memberSteps]
  simp only [↓reduceIte, hmet]

/-- Members without repeats that all are fields are met as fields. -/
theorem memberSteps_of_fields {names met : List String}
    (hnames : ∀ name ∈ members.map Prod.fst, name ∈ names)
    (hmet : ∀ name ∈ members.map Prod.fst, name ∉ met)
    (hnodup : (members.map Prod.fst).Nodup) :
    memberSteps names met (members.map fun m => (text m.1, m.2)) = allFields members := by
  unfold allFields
  induction members generalizing met with
  | nil => rfl
  | cons m rest ih =>
    simp only [List.map_cons, List.forall_mem_cons, List.nodup_cons] at hnames hmet hnodup ⊢
    rw [memberSteps_cons _ _ hmet.1, if_pos hnames.1, ih hnames.2 _ hnodup.2]
    intro name hname hmem
    rcases List.mem_cons.mp hmem with rfl | hmem
    · exact hnodup.1 hname
    · exact hmet.2 name hname hmem

/-- Members none of which is a field are met as values of no use. -/
theorem memberSteps_of_others {names met : List String}
    (hnames : ∀ name ∈ members.map Prod.fst, name ∉ names)
    (hmet : ∀ name ∈ members.map Prod.fst, name ∉ met) :
    memberSteps names met (members.map fun m => (text m.1, m.2)) =
      members.map fun m => .other m.2 := by
  induction members with
  | nil => rfl
  | cons m rest ih =>
    simp only [List.map_cons, List.forall_mem_cons] at hnames hmet ⊢
    rw [memberSteps_cons _ _ hmet.1, if_neg hnames.1, ih hnames.2 hmet.2]

/-- The steps through a record that may be entered are those through its members. -/
theorem steps_record (henter : source.mayEnter) (excess : Json → Step) (names : List String) :
    (record members).steps source excess names =
      memberSteps names [] (members.map fun m => (text m.1, m.2)) := by
  simp only [steps, record, members?, henter, ↓reduceIte, Option.toList_none, List.map_nil,
    List.append_nil]

/-- The steps through a record are its fields, when it has no other members. -/
theorem fields_record (henter : source.mayEnter) {names : List String}
    (hnames : members.map Prod.fst = names) (hnodup : names.Nodup) :
    (record members).fields source names = allFields members := by
  subst hnames
  rw [fields, steps_record henter]
  exact memberSteps_of_fields (fun _ h => h) (fun _ _ => List.not_mem_nil) hnodup

/-- A record none of whose fields has a fault is gone through to its end. -/
@[simp] theorem inOrder_fields {faults : List (String × Option JsonFault)}
    (h : ∀ f ∈ faults, f.2 = none) :
    inOrder faults (allFields members) = .ok () := by
  have hnone (name : String) : (faults.lookup name).join = none := by
    cases hlookup : faults.lookup name with
    | none => rfl
    | some fault =>
      obtain ⟨before, after, rfl, -⟩ := List.lookup_eq_some_iff.mp hlookup
      exact h (name, fault) (by simp)
  unfold inOrder allFields
  induction members with
  | nil => rfl
  | cons m rest ih => simpa only [List.map_cons, goThrough, hnone] using ih

/-- The tag of a record that starts with it is taken off. -/
theorem holdTagged_record {key tag : String} (names : List String)
    (hprintable : (record ((key, text tag) :: members)).Printable)
    (hsource : source.Admits (record ((key, text tag) :: members)))
    (hkey : key ∉ members.map Prod.fst) (htag : tag ∈ names) :
    (record ((key, text tag) :: members)).holdTagged source key names =
      .ok ⟨tag, record members⟩ := by
  have henter : source.mayEnter := hsource.mayEnter (Nat.succ_pos _)
  have hdecode : (text tag).decodeTag source names = .ok tag := by simp [text, decodeTag, htag]
  have hothers : ∀ name ∈ members.map Prod.fst, name ∉ [key] := fun name hname hmem =>
    hkey (List.mem_singleton.mp hmem ▸ hname)
  have hsteps : (record ((key, text tag) :: members)).steps source .other [key] =
      .field key (text tag) :: members.map fun m => .other m.2 := by
    rw [steps_record henter, List.map_cons, memberSteps_cons _ _ List.not_mem_nil,
      if_pos (List.mem_singleton_self key), memberSteps_of_others hothers hothers]
  -- no other value has a fault, so the whole of the record is gone through
  have hpassing : ∀ m ∈ members, source.inner.holdFault m.2 = none := by
    intro m hm
    have hm' : m ∈ (key, text tag) :: members := List.mem_cons_of_mem _ hm
    have hless := nesting_lt_of_mem_record (List.mem_map_of_mem (f := Prod.snd) hm')
    exact (hsource.inner hless).holdFault (printable_record_iff.mp hprintable m hm')
  have hthrough : goThrough source.inner.holdFault (fun _ => none)
      (members.map fun m => .other m.2) = .ok () := by
    clear hsteps hothers hkey hprintable hsource
    induction members with
    | nil => rfl
    | cons m rest ih =>
      obtain ⟨hm, hrest⟩ := List.forall_mem_cons.mp hpassing
      simp only [List.map_cons, goThrough, hm, ih hrest]
  have hwithout : (record ((key, text tag) :: members)).withoutTag key = record members := by
    rw [record, List.map_cons, withoutTag, List.filter_cons_of_neg (by simp [text])]
    refine congrArg object (List.filter_eq_self.mpr fun m hm => ?_)
    obtain ⟨m', hm', rfl⟩ := List.mem_map.mp hm
    have hne : m'.1 ≠ key := fun heq => hkey (heq ▸ List.mem_map_of_mem hm')
    simpa [text] using hne
  have hvalue : fieldValue? key (.field key (text tag) :: members.map fun m => .other m.2) =
      some (text tag) := by simp [fieldValue?]
  rw [holdTagged, hsteps, hvalue, hwithout]
  simp only [require, hdecode, faultOf?, goThrough, hthrough]
  rfl

/-- A name is decoded as what it names. -/
theorem decodeName_text {α : Type} {ofName? : String → Option α} {name : String} {a : α}
    (h : ofName? name = some a) : (text name).decodeName source ofName? = .ok a := by
  cases source <;> simp only [text, decodeName, named, h]

/-- An array of encoded values is decoded item by item. -/
theorem decodeArray_map {α : Type} {decode : JsonSource → Json → Except JsonFault α}
    {encode : α → Json} {as : List α} (henter : source.mayEnter)
    (h : ∀ a ∈ as, decode source.inner (encode a) = .ok a) :
    (array (as.map encode)).decodeArray source decode = .ok as := by
  have hitems : decodeItems (decode source.inner) (as.map encode) = .ok as := by
    induction as with
    | nil => rfl
    | cons a rest ih =>
      obtain ⟨ha, hrest⟩ := List.forall_mem_cons.mp h
      rw [List.map_cons, decodeItems, ha, ih hrest]
      rfl
  simp only [decodeArray, items?, henter, ↓reduceIte, hitems]
  rfl

end Json

/-! ## Constants and formals -/

/-- A type is found under its name. -/
theorem ValueType.ofName?_name (t : ValueType) : ofName? t.name = some t := by
  cases t <;> rfl

/-- The type of a constant is found under its name. -/
theorem Constant.ofPlainName?_name (c : Constant) :
    ValueType.ofPlainName? c.type.name = some c.type := by
  cases c <;> rfl

/-- A kind of rules is found under its name. -/
theorem RuleKind.ofName?_name (k : RuleKind) : ofName? k.name = some k := by
  cases k <;> rfl

/-- A whole number of 64 bits is decoded from its digits. -/
theorem Json.decodeInt_ofInt (i : Int64) : decodeInt (.number (.ofInt i.toInt)) = .ok i := by
  have hupper := i.toInt_lt
  rw [decodeInt, JsonNumber.value?_ofInt]
  by_cases hneg : i.toInt < 0
  · simp only [hneg, ↓reduceIte]
  · have hbound : i.toInt.natAbs < Number.signBound := by
      simp only [Number.signBound]
      omega
    have hvalue : (i.toInt.natAbs : Int) = i.toInt := by omega
    simp only [hneg, ↓reduceIte, hbound]
    rw [← Int64.ofInt_eq_ofNat, hvalue, Int64.ofInt_toInt]

namespace Constant

/-- A constant that is no real number is printed as its type and a value from which it is
decoded. -/
theorem exists_encode_eq {c : Constant} (h : c.type ≠ .real) :
    ∃ value, c.encode = Json.record [("type", Json.text c.type.name), ("value", value)] ∧
      value.Printable ∧ decodeValue value c.type = .ok c := by
  cases c with
  | string s => exact ⟨_, rfl, rfl, rfl⟩
  | int i =>
    refine ⟨_, rfl, ⟨i, rfl⟩, ?_⟩
    rw [type, decodeValue, Json.decodeInt_ofInt]
    rfl
  | real x => exact absurd rfl h
  | char ch =>
    refine ⟨_, rfl, rfl, ?_⟩
    have hchars : (String.singleton ch).toList = [ch] := String.toList_singleton ch
    simp only [type, decodeValue, Json.decodeChar, Json.text, Json.decodeString, bind, Except.bind,
      hchars]
    rfl

/-- A constant that is no real number is printed without loss. -/
theorem printable_encode {c : Constant} (h : c.type ≠ .real) : c.encode.Printable := by
  obtain ⟨value, hencode, hprintable, -⟩ := exists_encode_eq h
  rw [hencode]
  exact Json.printable_record_iff.mpr (by simpa using ⟨rfl, hprintable⟩)

/-- A constant that is no real number is decoded from its JSON. -/
theorem decode_encode {c : Constant} (h : c.type ≠ .real) {source : JsonSource}
    (hsource : source.Admits c.encode) : decode source c.encode = .ok c := by
  obtain ⟨value, hencode, -, hvalue⟩ := exists_encode_eq h
  rw [hencode] at hsource ⊢
  have henter : source.mayEnter := hsource.mayEnter (Nat.succ_pos _)
  have hfields : (Json.record [("type", Json.text c.type.name), ("value", value)]).fields source
      ["type", "value"] = Json.allFields [("type", Json.text c.type.name), ("value", value)] :=
    Json.fields_record henter rfl (by decide)
  have htype : decodeType source.inner false (Json.text c.type.name) = .ok c.type := by
    rw [decodeType, if_neg Bool.false_ne_true]
    exact Json.decodeName_text c.ofPlainName?_name
  have hfirst : Json.firstField? (Json.allFields [("type", Json.text c.type.name),
      ("value", value)]) = some "type" := rfl
  have harray : (Json.record [("type", Json.text c.type.name),
      ("value", value)]).items?.isSome = false := rfl
  simp [decode, hfields, hfirst, harray, htype, hvalue, List.lookup_cons, bind, Except.bind]

end Constant

namespace Formal

/-- A formal is printed without loss. -/
theorem printable_encode (f : Formal) : f.encode.Printable :=
  Json.printable_record_iff.mpr (by simp [Json.Printable, Json.text])

/-- A formal is decoded from its JSON. -/
theorem decode_encode (f : Formal) {source : JsonSource} (hsource : source.Admits f.encode) :
    decode source f.encode = .ok f := by
  have hfields : f.encode.fields source
      ["name", "description", "type", "is_array", "is_required"] =
        Json.allFields [("name", Json.text f.name), ("description", Json.text f.description),
          ("type", Json.text f.type.name), ("is_array", .bool f.isArray),
          ("is_required", .bool f.isRequired)] :=
    Json.fields_record (hsource.mayEnter (Nat.succ_pos _)) rfl (by decide)
  have htype : (Json.text f.type.name).decodeName source.inner ValueType.ofName? = .ok f.type :=
    Json.decodeName_text f.type.ofName?_name
  simp [decode, hfields, htype, List.lookup_cons, bind, Except.bind, pure, Except.pure]

end Formal

/-! ## Nodes -/

namespace NodeDefinition

mutual

/-- A node with no real number among its constants. -/
def NoReals : NodeDefinition → Prop
  | .constant _ value => value.type ≠ .real
  | .cell _ _ | .variable _ _ => True
  | .call _ _ children => AllNoReals children

/-- Nodes with no real numbers among their constants. -/
def AllNoReals : List NodeDefinition → Prop
  | [] => True
  | d :: rest => d.NoReals ∧ AllNoReals rest

end

/-- Nodes are encoded one by one. -/
theorem encodeAll_eq (ds : List NodeDefinition) : encodeAll ds = ds.map encode := by
  induction ds with
  | nil => rfl
  | cons d rest ih => rw [encodeAll, ih, List.map_cons]

mutual

/-- A node without real numbers is printed without loss. -/
theorem printable_encode (d : NodeDefinition) (h : d.NoReals) : d.encode.Printable := by
  cases d with
  | constant slot value =>
    rw [encode]
    exact Json.printable_record_iff.mpr (by simpa using ⟨rfl, rfl, Constant.printable_encode h⟩)
  | cell slot address =>
    rw [encode]
    exact Json.printable_record_iff.mpr (by simpa using ⟨rfl, rfl, rfl⟩)
  | «variable» slot argument =>
    rw [encode]
    exact Json.printable_record_iff.mpr (by simpa using ⟨rfl, rfl, rfl⟩)
  | call slot factory children =>
    rw [encode]
    have hchildren : (Json.array (encodeAll children)).Printable := printable_encodeAll children h
    exact Json.printable_record_iff.mpr (by simpa using ⟨rfl, rfl, rfl, hchildren⟩)

/-- Nodes without real numbers are printed without loss. -/
theorem printable_encodeAll (ds : List NodeDefinition) (h : AllNoReals ds) :
    Json.AllPrintable (encodeAll ds) := by
  cases ds with
  | nil => trivial
  | cons d rest => exact ⟨printable_encode d h.1, printable_encodeAll rest h.2⟩

end

mutual

/-- A node without real numbers is decoded from its JSON where that fits, with fuel for its
depth. -/
theorem decodeWithin_encode (d : NodeDefinition) (h : d.NoReals) (fuel : Nat)
    (hfuel : d.encode.nesting ≤ fuel) {source : JsonSource} (hsource : source.Admits d.encode) :
    decodeWithin fuel source d.encode = .ok d := by
  have hprintable := printable_encode d h
  cases d with
  | constant slot value =>
    rw [encode] at hfuel hprintable hsource ⊢
    obtain ⟨fuel, rfl⟩ := Nat.exists_eq_add_one_of_ne_zero (Nat.ne_zero_of_lt hfuel)
    have hfields : (Json.record [("slot", Json.text slot), ("value", value.encode)]).fields .held
        ["slot", "value"] = Json.allFields [("slot", Json.text slot), ("value", value.encode)] :=
      Json.fields_record rfl rfl (by decide)
    have hvalue : Constant.decode .held value.encode = .ok value :=
      Constant.decode_encode h (.held _)
    rw [decodeWithin, Json.holdTagged_record kinds hprintable hsource (by simp) (by decide)]
    simp [hfields, hvalue, List.lookup_cons, bind, Except.bind, pure, Except.pure]
  | cell slot address =>
    rw [encode] at hfuel hprintable hsource ⊢
    obtain ⟨fuel, rfl⟩ := Nat.exists_eq_add_one_of_ne_zero (Nat.ne_zero_of_lt hfuel)
    have hfields : (Json.record [("slot", Json.text slot), ("address", Json.text address)]).fields
        .held ["slot", "address"] =
          Json.allFields [("slot", Json.text slot), ("address", Json.text address)] :=
      Json.fields_record rfl rfl (by decide)
    rw [decodeWithin, Json.holdTagged_record kinds hprintable hsource (by simp) (by decide)]
    simp [hfields, List.lookup_cons, bind, Except.bind, pure, Except.pure]
  | «variable» slot argument =>
    rw [encode] at hfuel hprintable hsource ⊢
    obtain ⟨fuel, rfl⟩ := Nat.exists_eq_add_one_of_ne_zero (Nat.ne_zero_of_lt hfuel)
    have hfields : (Json.record [("slot", Json.text slot), ("argument", Json.text argument)]).fields
        .held ["slot", "argument"] =
          Json.allFields [("slot", Json.text slot), ("argument", Json.text argument)] :=
      Json.fields_record rfl rfl (by decide)
    rw [decodeWithin, Json.holdTagged_record kinds hprintable hsource (by simp) (by decide)]
    simp [hfields, List.lookup_cons, bind, Except.bind, pure, Except.pure]
  | call slot factory children =>
    rw [encode, encodeAll_eq] at hfuel hprintable hsource ⊢
    obtain ⟨fuel, rfl⟩ := Nat.exists_eq_add_one_of_ne_zero (Nat.ne_zero_of_lt hfuel)
    -- a child is nested less than the list of children, which is nested less than the node
    have hnested (c : NodeDefinition) (hc : c ∈ children) : c.encode.nesting ≤ fuel := by
      have hchild := Json.nesting_lt_of_mem_array (List.mem_map_of_mem (f := encode) hc)
      have hlist : (Json.array (children.map encode)).nesting < fuel + 1 :=
        Nat.lt_of_lt_of_le (Json.nesting_lt_of_mem_record (by simp)) hfuel
      omega
    have hchildren : (Json.array (children.map encode)).decodeArray .held (decodeWithin fuel) =
        .ok children :=
      Json.decodeArray_map rfl (decodeWithin_encodeAll children h fuel hnested)
    have hfields : (Json.record [("slot", Json.text slot), ("factory", Json.text factory),
        ("children", .array (children.map encode))]).fields .held ["slot", "factory", "children"] =
          Json.allFields [("slot", Json.text slot), ("factory", Json.text factory),
            ("children", .array (children.map encode))] :=
      Json.fields_record rfl rfl (by decide)
    rw [decodeWithin, Json.holdTagged_record kinds hprintable hsource (by simp) (by decide)]
    simp [hfields, hchildren, List.lookup_cons, bind, Except.bind, pure, Except.pure]

/-- Nodes without real numbers that are held are decoded from their JSON, with fuel for their
depth. -/
theorem decodeWithin_encodeAll (ds : List NodeDefinition) (h : AllNoReals ds) (fuel : Nat)
    (hfuel : ∀ d ∈ ds, d.encode.nesting ≤ fuel) :
    ∀ d ∈ ds, decodeWithin fuel .held d.encode = .ok d := by
  cases ds with
  | nil => exact List.forall_mem_nil _
  | cons d rest =>
    obtain ⟨hd, hrest⟩ := List.forall_mem_cons.mp hfuel
    exact List.forall_mem_cons.mpr ⟨decodeWithin_encode d h.1 fuel hd (.held _),
      decodeWithin_encodeAll rest h.2 fuel hrest⟩

end

/-- A node without real numbers is decoded from its JSON, where that fits. -/
theorem decode_encode {d : NodeDefinition} (h : d.NoReals) {source : JsonSource}
    (hnesting : d.encode.nesting ≤ Json.depthLimit) (hsource : source.Admits d.encode) :
    decode source d.encode = .ok d :=
  decodeWithin_encode d h _ (Nat.le_succ_of_le hnesting) hsource

end NodeDefinition

/-! ## Factories -/

namespace BodyDefinition

/-- A body with no real number among the constants of its tree. -/
def NoReals : BodyDefinition → Prop
  | .native _ => True
  | .tree root => root.NoReals

/-- A body without real numbers is printed without loss. -/
theorem printable_encode {b : BodyDefinition} (h : b.NoReals) : b.encode.Printable := by
  cases b with
  | native id => exact Json.printable_record_iff.mpr (by simpa using ⟨rfl, rfl⟩)
  | tree root =>
    exact Json.printable_record_iff.mpr (by simpa using ⟨rfl, NodeDefinition.printable_encode root h⟩)

/-- A body without real numbers is decoded from its JSON, where that fits. -/
theorem decode_encode {b : BodyDefinition} (h : b.NoReals) {source : JsonSource}
    (hnesting : b.encode.nesting ≤ Json.depthLimit) (hsource : source.Admits b.encode) :
    decode source b.encode = .ok b := by
  have hprintable := printable_encode h
  cases b with
  | native id =>
    rw [encode] at hnesting hprintable hsource ⊢
    have hfields : (Json.record [("id", Json.text id)]).fields .held ["id"] =
        Json.allFields [("id", Json.text id)] := Json.fields_record rfl rfl (by decide)
    rw [decode, Json.holdTagged_record _ hprintable hsource (by simp) (by decide)]
    simp [hfields, bind, Except.bind, pure, Except.pure]
  | tree root =>
    rw [encode] at hnesting hprintable hsource ⊢
    have hless : root.encode.nesting < Json.depthLimit :=
      Nat.lt_of_lt_of_le (Json.nesting_lt_of_mem_record (by simp)) hnesting
    have hroot : NodeDefinition.decode .held root.encode = .ok root :=
      NodeDefinition.decode_encode h (Nat.le_of_lt hless) (.held _)
    have hfields : (Json.record [("root", root.encode)]).fields .held ["root"] =
        Json.allFields [("root", root.encode)] := Json.fields_record rfl rfl (by decide)
    rw [decode, Json.holdTagged_record _ hprintable hsource (by simp) (by decide)]
    simp [hfields, hroot, bind, Except.bind, pure, Except.pure]

end BodyDefinition

namespace FactoryDefinition

/-- A definition with no real number among the constants of its tree. -/
def NoReals (d : FactoryDefinition) : Prop := d.body.NoReals

/-- A definition without real numbers is printed without loss. -/
theorem printable_encode {d : FactoryDefinition} (h : d.NoReals) : d.encode.Printable := by
  have hformals : (Json.array (d.formals.map Formal.encode)).Printable := by
    refine Json.allPrintable_of_forall fun j hj => ?_
    obtain ⟨f, -, rfl⟩ := List.mem_map.mp hj
    exact f.printable_encode
  have hbody : d.body.encode.Printable := BodyDefinition.printable_encode h
  exact Json.printable_record_iff.mpr (by simpa using ⟨rfl, rfl, rfl, hformals, hbody⟩)

/-- A definition without real numbers is decoded from its JSON, where that fits. -/
theorem decode_encode {d : FactoryDefinition} (h : d.NoReals) {source : JsonSource}
    (hnesting : d.encode.nesting ≤ Json.depthLimit) (hsource : source.Admits d.encode) :
    decode source d.encode = .ok d := by
  have hinner (j : Json) (hj : j ∈ [Json.text d.name, Json.text d.description,
      Json.text d.output.name, .array (d.formals.map Formal.encode), d.body.encode]) :
      j.nesting < d.encode.nesting := Json.nesting_lt_of_mem_record (by simpa using hj)
  have hfields : d.encode.fields source ["name", "description", "output", "params", "body"] =
      Json.allFields [("name", Json.text d.name), ("description", Json.text d.description),
        ("output", Json.text d.output.name), ("params", .array (d.formals.map Formal.encode)),
        ("body", d.body.encode)] :=
    Json.fields_record (hsource.mayEnter (Nat.succ_pos _)) rfl (by decide)
  have houtput : (Json.text d.output.name).decodeName source.inner RuleKind.ofName? =
      .ok d.output := Json.decodeName_text d.output.ofName?_name
  have hformals : (Json.array (d.formals.map Formal.encode)).decodeArray source.inner
      Formal.decode = .ok d.formals := by
    have hadmits := hsource.inner (hinner (.array (d.formals.map Formal.encode)) (by simp))
    refine Json.decodeArray_map (hadmits.mayEnter (Nat.succ_pos _)) fun f hf => ?_
    exact f.decode_encode (hadmits.inner (Json.nesting_lt_of_mem_array (List.mem_map_of_mem hf)))
  have hbody : BodyDefinition.decode source.inner d.body.encode = .ok d.body := by
    have hless := hinner d.body.encode (by simp)
    exact BodyDefinition.decode_encode h (by omega) (hsource.inner hless)
  simp [decode, hfields, houtput, hformals, hbody, List.lookup_cons, bind, Except.bind, pure,
    Except.pure]

end FactoryDefinition

/-! ## Texts -/

/-- The whole of a text is read from its start. -/
theorem JsonSource.admits_direct_zero {j : Json} (h : j.nesting ≤ Json.depthLimit) :
    (JsonSource.direct 0).Admits j := by
  rintro _ ⟨⟩
  rwa [Nat.zero_add]

/-- Definitions of factories and of nodes that have no real numbers are read back as they are
printed, if their JSON is nested no deeper than the reader goes. -/
theorem parse_print_definitions :
    (∀ d : FactoryDefinition, d.NoReals → d.encode.nesting ≤ Json.depthLimit →
      FactoryDefinition.parse d.print = .ok d) ∧
    ∀ d : NodeDefinition, d.NoReals → d.encode.nesting ≤ Json.depthLimit →
      NodeDefinition.parse d.print = .ok d := by
  constructor
  · intro d hreals hnesting
    rw [FactoryDefinition.parse, FactoryDefinition.print,
      Json.decodeText_print _ (FactoryDefinition.printable_encode hreals)]
    exact FactoryDefinition.decode_encode hreals hnesting (JsonSource.admits_direct_zero hnesting)
  · intro d hreals hnesting
    rw [NodeDefinition.parse, NodeDefinition.print,
      Json.decodeText_print _ (NodeDefinition.printable_encode d hreals)]
    exact NodeDefinition.decode_encode hreals hnesting (JsonSource.admits_direct_zero hnesting)

/-- A tree with characters that need escapes, characters that need more than one byte, the least
whole number and calls with and without children. -/
def NodeDefinition.outlandish : NodeDefinition :=
  .call "" "all" [
    .call "matchers" "not" [.constant "say \"\\\"" (.int Int64.minValue)],
    .call "matchers" "any" [],
    .constant "\x01\n" (.char '\x1f'),
    .constant "é" (.string "\t/😀"),
    .cell "low" "A1",
    .variable "high" "limit"]

/-- A definition with such a tree. -/
def FactoryDefinition.outlandish : FactoryDefinition :=
  ⟨"\"\\é", "\r\x00", .matcher,
    [⟨"limit", "", .char, true, false⟩, ⟨"", "\u2028", .replacer, false, true⟩], .tree .outlandish⟩

/-- Both are without real numbers and nested little, and are read back. -/
theorem parse_print_outlandish :
    (FactoryDefinition.outlandish.NoReals ∧
      FactoryDefinition.outlandish.encode.nesting ≤ Json.depthLimit ∧
      FactoryDefinition.parse FactoryDefinition.outlandish.print = .ok .outlandish) ∧
    NodeDefinition.outlandish.NoReals ∧
      NodeDefinition.outlandish.encode.nesting ≤ Json.depthLimit ∧
      NodeDefinition.parse NodeDefinition.outlandish.print = .ok .outlandish := by
  have hreals : NodeDefinition.outlandish.NoReals := by
    simp [NodeDefinition.outlandish, NodeDefinition.NoReals, NodeDefinition.AllNoReals,
      Constant.type]
  have hfactory : FactoryDefinition.outlandish.encode.nesting ≤ Json.depthLimit := by decide
  have hnode : NodeDefinition.outlandish.encode.nesting ≤ Json.depthLimit := by decide
  exact ⟨⟨hreals, hfactory, parse_print_definitions.1 .outlandish hreals hfactory⟩,
    hreals, hnode, parse_print_definitions.2 .outlandish hreals hnode⟩

end GridAudit
