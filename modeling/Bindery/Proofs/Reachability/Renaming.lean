import Bindery.Proofs.Item.Renaming
import Bindery.Proofs.Reachability.Free
/-!
# Reachability by other names

What is known of items carries over to the items by other names, and so does whether a record or an
enumeration is free of references.
-/
namespace Bindery

def Link.rename (ρ : String → String) : Link → Link
  | handle => handle
  | target id stamp => target (id.rename ρ) stamp

variable {ρ : String → String}

theorem Ty.link?_rename (ty : Ty) : (ty.rename ρ).link? = ty.link?.map (Link.rename ρ) := by
  cases ty <;> rfl

/-- The links of a renamed item are its links, renamed. -/
theorem Item.links_rename (item : Item) :
    (item.rename ρ).links = item.links.map (Link.rename ρ) := by
  simp only [links, fieldTypes_rename, List.flatMap_map, Ty.occurrences_rename,
    ← List.map_flatMap, List.filterMap_map, Function.comp_def, Ty.link?_rename,
    List.map_filterMap]

namespace Reachability

variable {known known' : Universe} {trust : Bool} {names : List String}

/-- One universe knows about some names what another one knows about the new names. -/
structure Relabels (ρ : String → String) (names : List String) (known known' : Universe) :
    Prop where
  get? : ∀ id : Ident, id.name ∈ names →
    known'.get? (id.rename ρ) = (known.get? id).map (List.map (Link.rename ρ))
  mem : ∀ id links, known.get? id = some links → id.name ∈ names
  target : ∀ id links, known.get? id = some links →
    ∀ target stamp, .target target stamp ∈ links → target.name ∈ names

theorem Relabels.decidedBy_eq (h : Relabels ρ names known known') {id : Ident}
    (hid : id.name ∈ names) (stamp : Option Bool) :
    decidedBy known' trust (id.rename ρ) stamp = decidedBy known trust id stamp := by
  simp only [decidedBy, Table.contains_eq_isSome, h.get? id hid, Option.isSome_map]

theorem handle_mem_map_rename {links : List Link} :
    .handle ∈ links.map (Link.rename ρ) ↔ .handle ∈ links := by
  constructor
  · intro h
    obtain ⟨link, hlink, heq⟩ := List.mem_map.1 h
    cases link with
    | handle => exact hlink
    | target => cases heq
  · exact List.mem_map_of_mem

theorem target_mem_map_rename {links : List Link} {target : Ident} {stamp : Option Bool}
    (h : .target target stamp ∈ links.map (Link.rename ρ)) :
    ∃ id : Ident, .target id stamp ∈ links ∧ id.rename ρ = target := by
  obtain ⟨link, hlink, heq⟩ := List.mem_map.1 h
  cases link with
  | handle => cases heq
  | target id stamp' =>
    cases heq
    exact ⟨id, hlink, rfl⟩

/-- A free identifier is free under its new name. -/
theorem Relabels.free (h : Relabels ρ names known known') {id : Ident}
    (hid : Free known trust [] id) : Free known' trust [] (id.rename ρ) := by
  induction hid with
  | base hid => cases hid
  | @known id links hget hhandle hflag _ ih =>
    have hget' := h.get? id (h.mem id links hget)
    rw [hget, Option.map_some] at hget'
    refine .known hget' (fun hmem => hhandle (handle_mem_map_rename.1 hmem)) ?_ ?_
    · intro target stamp hmem
      obtain ⟨t, ht, rfl⟩ := target_mem_map_rename hmem
      rw [h.decidedBy_eq (h.target id links hget t stamp ht)]
      exact hflag t stamp ht
    · intro target stamp hmem hnone
      obtain ⟨t, ht, rfl⟩ := target_mem_map_rename hmem
      rw [h.decidedBy_eq (h.target id links hget t stamp ht)] at hnone
      exact ih t stamp ht hnone

/-- An identifier that is free under its new name was free before. -/
theorem Relabels.of_free (h : Relabels ρ names known known') {id : Ident}
    (hid : id.name ∈ names) (hfree : Free known' trust [] (id.rename ρ)) :
    Free known trust [] id := by
  generalize hnew : id.rename ρ = new at hfree
  induction hfree generalizing id with
  | base hbase => cases hbase
  | @known new links' hget' hhandle hflag _ ih =>
    subst hnew
    rw [h.get? id hid] at hget'
    obtain ⟨links, hget, rfl⟩ := Option.map_eq_some_iff.1 hget'
    refine .known hget (fun hmem => hhandle (handle_mem_map_rename.2 hmem)) ?_ ?_
    · intro t stamp ht
      rw [← h.decidedBy_eq (h.target id links hget t stamp ht)]
      exact hflag _ stamp (List.mem_map_of_mem ht)
    · intro t stamp ht hnone
      have hmem := h.target id links hget t stamp ht
      rw [← h.decidedBy_eq hmem] at hnone
      exact ih _ stamp (List.mem_map_of_mem ht) hnone hmem rfl

end Reachability

end Bindery
