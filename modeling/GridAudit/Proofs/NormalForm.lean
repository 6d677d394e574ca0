import Mathlib.Data.List.Induction
import GridAudit.Proofs.Exported

/-!
# The normal form of a definition

A definition that resolves is described by its factory in normal form: each formal is declared once,
in the place of its first declaration and as its last declaration has it, and each address is
written as it is printed. The normal form depends on the definition alone, not on the registry; it
resolves to the same factory again; and a definition is in normal form already when the names of its
formals differ and its addresses are written as they are printed.
-/

namespace GridAudit

/-! ## Formals -/

namespace Formal

/-- Each name in its first place with its last declaration. -/
def merged (formals : List Formal) : List Formal :=
  (formals.map name).eraseDups.filterMap (find? formals.reverse)

variable {formals : List Formal} {f g : Formal}

/-- What is declared after a declaration is it, or was declared before under another name. -/
theorem eq_or_mem_of_mem_declare (h : g ∈ declare formals f) :
    g = f ∨ g ∈ formals ∧ g.name ≠ f.name := by
  unfold declare at h
  split at h
  · obtain ⟨g', hg', hg⟩ := List.mem_map.mp h
    split at hg
    · exact .inl hg.symm
    · next hne => exact .inr (hg ▸ ⟨hg', hne⟩)
  · next hany =>
    rcases List.mem_append.mp h with h | h
    · exact .inr ⟨h, by grind⟩
    · exact .inl (List.mem_singleton.mp h)

/-- One more declaration is put into those normalized before. -/
theorem normalize_concat (formals : List Formal) (f : Formal) :
    normalize (formals ++ [f]) = declare (normalize formals) f := by
  rw [normalize, List.foldl_append]
  rfl

/-- Normalized declarations have the names in the order of their first places. -/
theorem names_normalize (formals : List Formal) :
    (normalize formals).map name = (formals.map name).eraseDups := by
  induction formals using List.reverseRecOn with
  | nil => rfl
  | append_singleton formals f ih =>
    have hnew : ([f.name].removeAll (formals.map name)).eraseDups =
        if f.name ∈ formals.map name then [] else [f.name] := by
      by_cases hf : f.name ∈ formals.map name <;>
        simp only [List.removeAll, List.filter_cons, List.elem_eq_mem, hf, ↓reduceIte, decide_true,
          decide_false, Bool.not_true, Bool.not_false, Bool.false_eq_true, List.filter_nil,
          List.eraseDups_nil, List.eraseDups_cons]
    rw [normalize_concat, names_declare, ih, List.map_append, List.eraseDups_append,
      List.map_singleton, hnew]
    by_cases hf : f.name ∈ formals.map name <;> simp only [List.mem_eraseDups, hf, ↓reduceIte,
      List.append_nil]

/-- A normalized declaration is the last one of its name. -/
theorem find?_reverse_of_mem_normalize (h : g ∈ normalize formals) :
    find? formals.reverse g.name = some g := by
  induction formals using List.reverseRecOn with
  | nil => contradiction
  | append_singleton formals f ih =>
    rw [normalize_concat] at h
    rw [List.reverse_append, List.reverse_singleton, List.singleton_append, find?]
    rcases eq_or_mem_of_mem_declare h with rfl | ⟨hg, hne⟩
    · exact List.find?_cons_of_pos (decide_eq_true rfl)
    · rw [List.find?_cons_of_neg (by simpa using hne.symm)]
      exact ih hg

/-- Declarations are normalized by merging those of each name. -/
theorem normalize_eq_merged (formals : List Formal) : normalize formals = merged formals := by
  have hlast : (normalize formals).filterMap (fun g => find? formals.reverse g.name) =
      (normalize formals).filterMap some :=
    List.filterMap_congr fun g hg => find?_reverse_of_mem_normalize hg
  rw [merged, ← names_normalize, List.filterMap_map]
  rw [List.filterMap_some] at hlast
  exact hlast.symm

/-- Declarations are merged already when their names differ. -/
theorem merged_eq_self_iff : merged formals = formals ↔ (formals.map name).Nodup := by
  rw [← normalize_eq_merged]
  exact ⟨fun h => h ▸ nodup_normalize formals, fun h => foldl_declare [] h⟩

end Formal

/-! ## Nodes -/

/-- An address as it is printed; a text that is no address stays as it is. -/
def CellRange.respell (address : String) : String :=
  match parse address with
  | .ok target => target.text
  | .error _ => address

/-- An address is as it is printed when it is the text of what it is read as. -/
theorem CellRange.respell_eq_self_iff {address : String} : respell address = address ↔
    ∀ target, parse address = .ok target → target.text = address := by
  unfold respell
  cases parse address <;> simp

namespace NodeDefinition

mutual

/-- A node with all addresses as they are printed. -/
def normal : NodeDefinition → NodeDefinition
  | .constant slot value => .constant slot value
  | .cell slot address => .cell slot (CellRange.respell address)
  | .variable slot argument => .variable slot argument
  | .call slot name children => .call slot name (normalAll children)

/-- Nodes with all addresses as they are printed. -/
def normalAll : List NodeDefinition → List NodeDefinition
  | [] => []
  | d :: rest => d.normal :: normalAll rest

end

mutual

/-- The addresses in a node, in order. -/
def addresses : NodeDefinition → List String
  | .cell _ address => [address]
  | .constant _ _ | .variable _ _ => []
  | .call _ _ children => addressesOf children

/-- The addresses in nodes, in order. -/
def addressesOf : List NodeDefinition → List String
  | [] => []
  | d :: rest => d.addresses ++ addressesOf rest

end

variable {r : Registry}

mutual

/-- A resolved node is described in normal form. -/
theorem describe_eq_normal (d : NodeDefinition) {n : Node} (h : d.resolve r = .ok n) :
    describe n = d.normal := by
  cases d with
  | constant | «variable» =>
    obtain rfl := Except.ok.inj h
    rfl
  | cell slot address =>
    obtain ⟨target, htarget, h⟩ := bind_eq_ok.mp h
    obtain rfl := Except.ok.inj h
    simp only [describe, normal, CellRange.respell, mapError_eq_ok.mp htarget]
  | call slot name children =>
    obtain ⟨factory, nodes, hfactory, hnodes, rfl⟩ := bind_bind_eq_ok.mp h
    have hname : factory.name = name :=
      Registry.name_of_factory? (Registry.factory_eq_ok.mp hfactory)
    rw [describe, normal, hname, describeAll_eq_normalAll children hnodes]

/-- Resolved nodes are described in normal form. -/
theorem describeAll_eq_normalAll (ds : List NodeDefinition) {nodes : List Node}
    (h : resolveAll r ds = .ok nodes) : describeAll nodes = normalAll ds := by
  cases ds with
  | nil =>
    obtain rfl := Except.ok.inj h
    rfl
  | cons d rest =>
    obtain ⟨first, more, hfirst, hmore, rfl⟩ := bind_bind_eq_ok.mp h
    rw [describeAll, normalAll, describe_eq_normal d hfirst, describeAll_eq_normalAll rest hmore]

end

mutual

/-- A node is in normal form when its addresses are. -/
theorem normal_eq_self_iff (d : NodeDefinition) :
    d.normal = d ↔ ∀ address ∈ d.addresses, CellRange.respell address = address := by
  cases d with
  | constant | «variable» => simp [normal, addresses]
  | cell slot address => simp [normal, addresses]
  | call slot name children => simp [normal, addresses, normalAll_eq_self_iff children]

/-- Nodes are in normal form when their addresses are. -/
theorem normalAll_eq_self_iff (ds : List NodeDefinition) :
    normalAll ds = ds ↔ ∀ address ∈ addressesOf ds, CellRange.respell address = address := by
  cases ds with
  | nil => simp [normalAll, addressesOf]
  | cons d rest =>
    rw [normalAll, addressesOf, List.cons.injEq, normal_eq_self_iff d, normalAll_eq_self_iff rest,
      List.forall_mem_append]

end

end NodeDefinition

/-! ## Factories -/

/-- A body with all addresses as they are printed. -/
def BodyDefinition.normal : BodyDefinition → BodyDefinition
  | .native id => .native id
  | .tree root => .tree root.normal

/-- The addresses in a body, in order. -/
def BodyDefinition.addresses : BodyDefinition → List String
  | .native _ => []
  | .tree root => root.addresses

/-- A body is in normal form when its addresses are. -/
theorem BodyDefinition.normal_eq_self_iff (b : BodyDefinition) :
    b.normal = b ↔ ∀ address ∈ b.addresses, CellRange.respell address = address := by
  cases b with
  | native id => simp [normal, addresses]
  | tree root => simp [normal, addresses, NodeDefinition.normal_eq_self_iff root]

namespace FactoryDefinition

/-- A definition whose formals are declared once each and whose addresses are written as they are
printed. -/
def normal (d : FactoryDefinition) : FactoryDefinition :=
  { d with formals := Formal.merged d.formals, body := d.body.normal }

variable {r : Registry} {d : FactoryDefinition} {f : Factory}

/-- A resolved factory is described in normal form. -/
theorem describe_eq_normal (h : d.resolve r = .ok f) : describe f = d.normal := by
  obtain ⟨name, description, output, formals, body⟩ := d
  cases body with
  | native id =>
    obtain rfl := Except.ok.inj h
    simp only [describe, normal, FactoryOf.define, ← Formal.normalize_eq_merged]
    rfl
  | tree root =>
    obtain ⟨node, hnode, h⟩ := bind_eq_ok.mp h
    obtain rfl := Except.ok.inj h
    simp only [describe, normal, FactoryOf.define, ← Formal.normalize_eq_merged,
      NodeDefinition.describe_eq_normal root hnode]
    rfl

/-- A definition is in normal form when the names of its formals differ and its addresses are
written as they are printed. -/
theorem normal_eq_self_iff (d : FactoryDefinition) : d.normal = d ↔
    (d.formals.map Formal.name).Nodup ∧
      ∀ address ∈ d.body.addresses, CellRange.respell address = address := by
  obtain ⟨name, description, output, formals, body⟩ := d
  rw [← BodyDefinition.normal_eq_self_iff, ← Formal.merged_eq_self_iff]
  simp [normal]

/-- A definition that a registry resolves and the definition that describes the factory. -/
structure Normalizes (r : Registry) (d d' : FactoryDefinition) : Prop where
  /-- The description resolves to a factory that is described by it again. -/
  resolves : ∃ f, d'.resolve r = .ok f ∧ describe f = d'
  /-- The description differs in formals that are declared more than once, of which it has the last
  declaration in the place of the first, and in the spelling of addresses. -/
  normal : d' = d.normal
  /-- The description is the definition when no formal is declared twice and every address is the
  text of what it is read as. -/
  unchanged_iff : d' = d ↔ (d.formals.map Formal.name).Nodup ∧
    ∀ address ∈ d.body.addresses, ∀ target, CellRange.parse address = .ok target →
      target.text = address

/-- Describing a factory normalizes the definition that it was resolved from. -/
theorem normalizes_describe (h : d.resolve r = .ok f) : d.Normalizes r (describe f) := by
  have hnormal := describe_eq_normal h
  refine ⟨⟨f, resolve_describe h, rfl⟩, hnormal, ?_⟩
  rw [hnormal, normal_eq_self_iff]
  simp only [CellRange.respell_eq_self_iff]

/-- A definition with a formal that is declared twice and an address with a sign, zeros and blanks
before and after the row. -/
def loose : FactoryDefinition where
  name := "Loose"
  description := ""
  output := .matcher
  formals := [.single "text" .int, .single "more" .char, .single "text" .string]
  body := .tree
    (.call "root" "OneOf" [.variable "input" "text", .cell "options" "Q1:Totals: +007 :*"])

/-- The description of `loose` declares the formal once and spells the address without these. -/
theorem normalizes_loose : ∃ f, loose.resolve .withBuiltins = .ok f ∧
    loose.Normalizes .withBuiltins (describe f) ∧
    describe f = { loose with
      formals := [.single "text" .string, .single "more" .char]
      body := .tree
        (.call "root" "OneOf" [.variable "input" "text", .cell "options" "Q1:Totals:7:*"]) } := by
  have hresolves : ∃ f, loose.resolve .withBuiltins = .ok f := ⟨_, rfl⟩
  obtain ⟨f, hf⟩ := hresolves
  exact ⟨f, hf, normalizes_describe hf, (describe_eq_normal hf).trans rfl⟩

end FactoryDefinition

end GridAudit
