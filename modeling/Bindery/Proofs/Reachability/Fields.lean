import Bindery.Proofs.Reachability.Free
import Mathlib.Data.Fintype.Card
import Mathlib.Data.Set.Finite.List
/-!
# What fields lead to

Records and enumerations as a graph, told from the items themselves: an item refers to the types
that stand anywhere in its fields. The identifiers that are free of handles are the ones from which
no walk through this graph meets a handle, an unknown identifier or a cycle.
-/
namespace Bindery

/-- A type stands in itself, and in whatever an optional, a sequence, a map or a custom type that
stands there is made of. -/
inductive Ty.Within (t : Ty) : Ty → Prop where
  | here : Within t t
  | optional {inner : Ty} : Within t inner → Within t (.optional inner)
  | sequence {inner : Ty} : Within t inner → Within t (.sequence inner)
  | key {key : Ty} (value : Ty) : Within t key → Within t (.map key value)
  | value (key : Ty) {value : Ty} : Within t value → Within t (.map key value)
  | builtin (path name : String) {builtin : Ty} :
      Within t builtin → Within t (.custom path name builtin)

/-- The occurrences of a type are the types that stand in it. -/
theorem Ty.mem_occurrences_iff (t u : Ty) : t ∈ u.occurrences ↔ t.Within u := by
  constructor
  · intro h
    induction u with
    | optional inner ih =>
      rcases List.mem_cons.1 h with rfl | h
      · exact .here
      · exact .optional (ih h)
    | sequence inner ih =>
      rcases List.mem_cons.1 h with rfl | h
      · exact .here
      · exact .sequence (ih h)
    | map key value ihk ihv =>
      rcases List.mem_cons.1 h with rfl | h
      · exact .here
      · rcases List.mem_append.1 h with h | h
        · exact .key value (ihk h)
        · exact .value key (ihv h)
    | custom path name builtin ih =>
      rcases List.mem_cons.1 h with rfl | h
      · exact .here
      · exact .builtin path name (ih h)
    | primitive | object | record | enumeration | callback | external =>
      obtain rfl := List.mem_singleton.1 h
      exact .here
  · intro h
    induction h with
    | here => exact t.mem_occurrences_self
    | optional _ ih | sequence _ ih | builtin _ _ _ ih => exact List.mem_cons_of_mem _ ih
    | key _ _ ih => exact List.mem_cons_of_mem _ (List.mem_append_left _ ih)
    | value _ _ ih => exact List.mem_cons_of_mem _ (List.mem_append_right _ ih)

/-- A type stands in a field of a record, or of a variant of an enumeration. -/
inductive Item.Mentions : Item → Ty → Prop where
  | record {r : Record} {f : Field} {t : Ty} :
      f ∈ r.fields → t.Within f.ty → Mentions (.record r) t
  | enumeration {e : Enumeration} {v : Variant} {f : Field} {t : Ty} :
      v ∈ e.variants → f ∈ v.fields → t.Within f.ty → Mentions (.enumeration e) t

theorem Item.mentions_iff (item : Item) (t : Ty) :
    item.Mentions t ↔ t ∈ item.fieldTypes.flatMap Ty.occurrences := by
  constructor
  · intro h
    cases h with
    | record hf ht =>
      simp only [fieldTypes, List.mem_flatMap, List.mem_map, exists_exists_and_eq_and]
      exact ⟨_, hf, (Ty.mem_occurrences_iff ..).2 ht⟩
    | enumeration hv hf ht =>
      simp only [fieldTypes, List.mem_flatMap, List.mem_map]
      exact ⟨_, ⟨_, hv, _, hf, rfl⟩, (Ty.mem_occurrences_iff ..).2 ht⟩
  · intro h
    obtain ⟨u, hu, ht⟩ := List.mem_flatMap.1 h
    have ht := (Ty.mem_occurrences_iff ..).1 ht
    cases item with
    | record r =>
      obtain ⟨f, hf, rfl⟩ := List.mem_map.1 hu
      exact .record hf ht
    | enumeration e =>
      obtain ⟨v, hv, hu⟩ := List.mem_flatMap.1 hu
      obtain ⟨f, hf, rfl⟩ := List.mem_map.1 hu
      exact .enumeration hv hf ht
    | _ => cases hu

/-- An item mentions what stands in the types of its fields. -/
theorem Item.mentions_iff_within (item : Item) (t : Ty) :
    item.Mentions t ↔ ∃ u ∈ item.fieldTypes, t.Within u := by
  simp only [mentions_iff, List.mem_flatMap, Ty.mem_occurrences_iff]

/-- The links of an item are what the types it mentions lead to. -/
theorem Item.mem_links_iff (item : Item) (link : Link) :
    link ∈ item.links ↔ ∃ t, item.Mentions t ∧ t.link? = some link := by
  simp [links, List.mem_filterMap, mentions_iff]

namespace Reachability

/-- The last of the items with an identifier. -/
def Declares (items : List Item) (id : Ident) (item : Item) : Prop :=
  ∃ before after, items = before ++ item :: after ∧ item.ident? = some id ∧
    ∀ later ∈ after, later.ident? ≠ some id

def Known (items : List Item) (id : Ident) : Prop := ∃ item ∈ items, item.ident? = some id

/-- A record or an enumeration refers to another one from its fields. Where stamps are trusted, a
reference to a type of another library leads on only if that type is among the items. -/
inductive Refers (items : List Item) (trust : Bool) : Ident → Ident → Prop where
  | record {id : Ident} {item : Item} {path name : String} :
      Declares items id item → item.Mentions (.record path name) →
      Refers items trust id ⟨path, name⟩
  | enumeration {id : Ident} {item : Item} {path name : String} :
      Declares items id item → item.Mentions (.enumeration path name) →
      Refers items trust id ⟨path, name⟩
  | external {id : Ident} {item : Item} {e : External} :
      Declares items id item → item.Mentions (.external e) →
      (trust = true → Known items e.ident) → Refers items trust id e.ident

/-- Why an identifier itself may hold a handle. -/
inductive Hazard (items : List Item) (trust : Bool) : Ident → Prop where
  | handle {id : Ident} {item : Item} {path name : String} :
      Declares items id item → item.Mentions (.object path name) → Hazard items trust id
  | unknown {id : Ident} : ¬ Known items id → Hazard items trust id
  | flagged {id : Ident} {item : Item} {e : External} :
      trust = true → Declares items id item → item.Mentions (.external e) →
      ¬ Known items e.ident → e.holdsObjects = true → Hazard items trust id
  | cycle {id : Ident} :
      Relation.TransGen (Refers items trust) id id → Hazard items trust id

theorem ofItems_append_singleton (items : List Item) (item : Item) :
    Universe.ofItems (items ++ [item]) =
      match item.ident? with
      | none => Universe.ofItems items
      | some id => (Universe.ofItems items).insert id item.links := by
  cases h : item.ident? with
  | none => simp [Universe.ofItems, h]
  | some id => simp [Universe.ofItems, h, Table.ofList_append_singleton]

/-- The last item with an identifier declares it. -/
theorem declares_append_singleton (items : List Item) (item : Item) (id : Ident) (x : Item) :
    Declares (items ++ [item]) id x ↔
      if item.ident? = some id then x = item else Declares items id x := by
  constructor
  · rintro ⟨before, after, heq, hid, hlater⟩
    rcases after.eq_nil_or_concat with rfl | ⟨after, last, rfl⟩
    · obtain ⟨-, hx⟩ := List.append_inj' heq rfl
      obtain rfl := List.singleton_injective hx
      rw [if_pos hid]
    · rw [List.concat_eq_append] at heq hlater
      rw [← List.cons_append, ← List.append_assoc] at heq
      obtain ⟨rfl, hx⟩ := List.append_inj' heq rfl
      obtain rfl := List.singleton_injective hx
      rw [if_neg (hlater item (by simp))]
      exact ⟨before, after, rfl, hid, fun later h => hlater later (by simp [h])⟩
  · intro h
    split at h
    · subst h
      exact ⟨items, [], rfl, by assumption, by simp⟩
    · rename_i hne
      obtain ⟨before, after, rfl, hid, hlater⟩ := h
      refine ⟨before, after ++ [item], by simp, hid, fun later h => ?_⟩
      rcases List.mem_append.1 h with h | h
      · exact hlater later h
      · exact List.mem_singleton.1 h ▸ hne

/-- The universe of some items knows what their last declarations lead to. -/
theorem get?_ofItems (items : List Item) (id : Ident) (links : List Link) :
    (Universe.ofItems items).get? id = some links ↔
      ∃ item, Declares items id item ∧ item.links = links := by
  induction items using List.reverseRecOn with
  | nil => simp [Universe.ofItems, Table.ofList, Declares]
  | append_singleton items item ih =>
    simp only [declares_append_singleton, ofItems_append_singleton]
    cases h : item.ident? with
    | none => simpa [h] using ih
    | some other =>
      simp only [Table.get?_insert]
      by_cases hid : id = other
      · simp [hid]
      · have hne : other ≠ id := fun e => hid e.symm
        simpa [hid, hne] using ih

theorem Declares.mem {items : List Item} {id : Ident} {item : Item} (h : Declares items id item) :
    item ∈ items ∧ item.ident? = some id := by
  obtain ⟨before, after, rfl, hid, -⟩ := h
  exact ⟨by simp, hid⟩

/-- An identifier is declared exactly if it is known. -/
theorem exists_declares_iff (items : List Item) (id : Ident) :
    (∃ item, Declares items id item) ↔ Known items id := by
  induction items using List.reverseRecOn with
  | nil => simp [Declares, Known]
  | append_singleton items item ih =>
    simp only [declares_append_singleton]
    by_cases h : item.ident? = some id
    · simp [h, Known]
    · simp only [h, if_false, ih, Known, List.mem_append, List.mem_singleton]
      constructor
      · rintro ⟨x, hx, hid⟩
        exact ⟨x, .inl hx, hid⟩
      · rintro ⟨x, hx | rfl, hid⟩
        · exact ⟨x, hx, hid⟩
        · exact absurd hid h

theorem mem_keys_ofItems (items : List Item) (id : Ident) :
    id ∈ (Universe.ofItems items).keys ↔ Known items id := by
  rw [Table.mem_keys_iff, ← exists_declares_iff]
  constructor
  · rintro ⟨links, h⟩
    obtain ⟨item, hitem, -⟩ := (get?_ofItems ..).1 h
    exact ⟨item, hitem⟩
  · rintro ⟨item, hitem⟩
    exact ⟨item.links, (get?_ofItems ..).2 ⟨item, hitem, rfl⟩⟩

/-- A stamp decides exactly where it is trusted and its target is unknown. -/
theorem decidedBy_eq_some_iff (items : List Item) (trust : Bool) (id : Ident)
    (stamp : Option Bool) (flag : Bool) :
    decidedBy (Universe.ofItems items) trust id stamp = some flag ↔
      trust = true ∧ ¬ Known items id ∧ stamp = some flag := by
  rw [← mem_keys_ofItems, decidedBy]
  cases trust <;> by_cases h : id ∈ (Universe.ofItems items).keys <;>
    simp [Table.contains, h]

theorem decidedBy_eq_none_iff (items : List Item) (trust : Bool) (id : Ident)
    (stamp : Option Bool) :
    decidedBy (Universe.ofItems items) trust id stamp = none ↔
      stamp = none ∨ (trust = true → Known items id) := by
  rw [← mem_keys_ofItems, decidedBy]
  cases trust <;> by_cases h : id ∈ (Universe.ofItems items).keys <;>
    simp [Table.contains, h]

/-- The links that a walk goes along are the references of the items. -/
theorem along_iff_refers (items : List Item) (trust : Bool) (source target : Ident) :
    Along (Universe.ofItems items) trust [] source target ↔ Refers items trust source target := by
  constructor
  · rintro ⟨-, links, stamp, hget, hmem, hd⟩
    obtain ⟨item, hitem, rfl⟩ := (get?_ofItems ..).1 hget
    obtain ⟨t, ht, hlink⟩ := (item.mem_links_iff _).1 hmem
    cases t with
    | record path name =>
      obtain ⟨rfl, rfl⟩ := Link.target.inj (Option.some.inj hlink)
      exact .record hitem ht
    | enumeration path name =>
      obtain ⟨rfl, rfl⟩ := Link.target.inj (Option.some.inj hlink)
      exact .enumeration hitem ht
    | external e =>
      obtain ⟨rfl, rfl⟩ := Link.target.inj (Option.some.inj hlink)
      rw [decidedBy_eq_none_iff] at hd
      exact .external hitem ht (hd.resolve_left (by simp))
    | object => cases hlink
    | _ => cases hlink
  · intro h
    refine ⟨List.not_mem_nil, ?_⟩
    cases h with
    | record hitem ht =>
      exact ⟨_, none, (get?_ofItems ..).2 ⟨_, hitem, rfl⟩, (Item.mem_links_iff ..).2 ⟨_, ht, rfl⟩,
        (decidedBy_eq_none_iff ..).2 (.inl rfl)⟩
    | enumeration hitem ht =>
      exact ⟨_, none, (get?_ofItems ..).2 ⟨_, hitem, rfl⟩, (Item.mem_links_iff ..).2 ⟨_, ht, rfl⟩,
        (decidedBy_eq_none_iff ..).2 (.inl rfl)⟩
    | @external _ e hitem ht hknown =>
      exact ⟨_, some _, (get?_ofItems ..).2 ⟨_, hitem, rfl⟩,
        (Item.mem_links_iff ..).2 ⟨_, ht, rfl⟩, (decidedBy_eq_none_iff ..).2 (.inr hknown)⟩

/-- A link to a handle comes from an object that is mentioned. -/
theorem handle_mem_links_iff (item : Item) :
    .handle ∈ item.links ↔ ∃ path name, item.Mentions (.object path name) := by
  rw [item.mem_links_iff]
  constructor
  · rintro ⟨t, ht, hlink⟩
    cases t with
    | object path name => exact ⟨path, name, ht⟩
    | _ => cases hlink
  · rintro ⟨path, name, ht⟩
    exact ⟨_, ht, rfl⟩

theorem flagged_mem_links {item : Item} {id : Ident} {flag : Bool}
    (h : .target id (some flag) ∈ item.links) :
    ∃ e : External, item.Mentions (.external e) ∧ e.ident = id ∧ e.holdsObjects = flag := by
  obtain ⟨t, ht, hlink⟩ := (item.mem_links_iff _).1 h
  cases t with
  | external e =>
    obtain ⟨hid, hflag⟩ := Link.target.inj (Option.some.inj hlink)
    exact ⟨e, ht, hid, Option.some.inj hflag⟩
  | _ => cases hlink

/-- An identifier with nothing wrong itself is free when all that it refers to is. -/
theorem free_of_refers {items : List Item} {trust : Bool} {id : Ident}
    (hid : ¬ Hazard items trust id)
    (h : ∀ target, Refers items trust id target →
      Free (Universe.ofItems items) trust [] target) :
    Free (Universe.ofItems items) trust [] id := by
  have hknown : Known items id := by
    by_contra hn
    exact hid (.unknown hn)
  obtain ⟨item, hitem⟩ := (exists_declares_iff items id).2 hknown
  have hget : (Universe.ofItems items).get? id = some item.links :=
    (get?_ofItems ..).2 ⟨item, hitem, rfl⟩
  refine .known hget ?_ ?_ ?_
  · intro hmem
    obtain ⟨path, name, ht⟩ := (handle_mem_links_iff item).1 hmem
    exact hid (.handle hitem ht)
  · intro target stamp hmem hd
    obtain ⟨htrust, hunknown, rfl⟩ := (decidedBy_eq_some_iff ..).1 hd
    obtain ⟨e, ht, rfl, hflag⟩ := flagged_mem_links hmem
    exact hid (.flagged htrust hitem ht hunknown hflag)
  · intro target stamp hmem hd
    exact h target ((along_iff_refers ..).1 ⟨List.not_mem_nil, _, stamp, hget, hmem, hd⟩)

/-- A free identifier is no hazard. -/
theorem not_hazard_of_free {items : List Item} {trust : Bool} {id : Ident}
    (h : Free (Universe.ofItems items) trust [] id) : ¬ Hazard items trust id := by
  intro hz
  have hlinks : ∀ item, Declares items id item →
      .handle ∉ item.links ∧ ∀ target stamp, .target target stamp ∈ item.links →
        decidedBy (Universe.ofItems items) trust target stamp ≠ some true := by
    intro item hitem
    have hget := (get?_ofItems ..).2 ⟨item, hitem, rfl⟩
    cases h with
    | base hid => cases hid
    | known hget' h₁ h₂ _ =>
      obtain rfl := Option.some.inj (hget.symm.trans hget')
      exact ⟨h₁, h₂⟩
  cases hz with
  | handle hitem ht => exact (hlinks _ hitem).1 ((handle_mem_links_iff _).2 ⟨_, _, ht⟩)
  | unknown hn => exact hn ((mem_keys_ofItems ..).1 h.mem_keys)
  | flagged htrust hitem ht hunknown hflag =>
    exact (hlinks _ hitem).2 _ _ ((Item.mem_links_iff ..).2 ⟨_, ht, rfl⟩)
      ((decidedBy_eq_some_iff ..).2 ⟨htrust, hunknown, congrArg some hflag⟩)
  | cycle hc =>
    have hc' : Relation.TransGen (Along (Universe.ofItems items) trust []) id id :=
      Relation.TransGen.mono (fun a b hab => (along_iff_refers items trust a b).2 hab) _ _ hc
    exact h.not_cycle hc'

/-- A free identifier refers to free ones only. -/
theorem free_of_refers_of_free {items : List Item} {trust : Bool} {id target : Ident}
    (h : Free (Universe.ofItems items) trust [] id) (hr : Refers items trust id target) :
    Free (Universe.ofItems items) trust [] target := by
  obtain ⟨_, links, stamp, hget, hmem, hd⟩ := (along_iff_refers ..).2 hr
  cases h with
  | base hid => cases hid
  | known hget' _ _ h₃ =>
    obtain rfl := Option.some.inj (hget.symm.trans hget')
    exact h₃ target stamp hmem hd

/-- From an identifier with no cycle ahead all walks end, for there are only finitely many known
identifiers; so freeness comes back from their ends. -/
theorem free_of_not_reaches_hazard {items : List Item} {trust : Bool} {id : Ident}
    (h : ∀ b, Relation.ReflTransGen (Refers items trust) id b → ¬ Hazard items trust b) :
    Free (Universe.ofItems items) trust [] id := by
  let ahead := { b // Relation.ReflTransGen (Refers items trust) id b }
  have hfinite : Finite ahead := by
    refine Set.Finite.subset (List.finite_toSet (Universe.ofItems items).keys) fun b hb => ?_
    have hknown : Known items b := by
      by_contra hn
      exact h b hb (.unknown hn)
    exact (mem_keys_ofItems ..).2 hknown
  let back : ahead → ahead → Prop := fun b a => Relation.TransGen (Refers items trust) a.1 b.1
  have htrans : IsTrans ahead back := ⟨fun a b c hab hbc => hbc.trans hab⟩
  have hirrefl : Std.Irrefl back := ⟨fun a ha => h a.1 a.2 (.cycle ha)⟩
  have hwf : WellFounded back := Finite.wellFounded_of_trans_of_irrefl back
  have hall : ∀ a : ahead, Free (Universe.ofItems items) trust [] a.1 := by
    intro a
    induction a using hwf.induction with
    | _ a ih =>
      refine free_of_refers (h a.1 a.2) fun target hr => ?_
      exact ih ⟨target, a.2.tail hr⟩ (.single hr)
  exact hall ⟨id, .refl⟩

/-- No walk from a free identifier meets a hazard. -/
theorem not_reaches_hazard_of_free {items : List Item} {trust : Bool} {id b : Ident}
    (h : Free (Universe.ofItems items) trust [] id)
    (hb : Relation.ReflTransGen (Refers items trust) id b) : ¬ Hazard items trust b := by
  have hfree : Free (Universe.ofItems items) trust [] b := by
    induction hb with
    | refl => exact h
    | tail _ hr ih => exact free_of_refers_of_free ih hr
  exact not_hazard_of_free hfree

/-- The reference-free identifiers of some items are the known ones from which no walk along
references meets a hazard. Each query of the analysis comes to its answer by a walk of its own,
with nothing to cut the walk off, and no identifier is listed twice. -/
theorem mem_freeIdents_iff (items : List Item) (trust : Bool) :
    (∀ free id, Runs (Universe.ofItems items) trust [] free (.visit id)
      (query (Universe.ofItems items) trust free id)) ∧
    (freeIdents items trust).Nodup ∧
    ∀ id, id ∈ freeIdents items trust ↔ Known items id ∧
      ∀ b, Relation.ReflTransGen (Refers items trust) id b → ¬ Hazard items trust b := by
  refine ⟨runs_query, nodup_freeOf _ _, fun id => ?_⟩
  rw [freeIdents, mem_freeOf_iff]
  constructor
  · intro h
    exact ⟨(mem_keys_ofItems ..).1 h.mem_keys, fun b hb => not_reaches_hazard_of_free h hb⟩
  · rintro ⟨-, h⟩
    exact free_of_not_reaches_hazard h

/-- Two records that hold each other are not free; a stamp counts only where it is trusted. -/
example :
    let items : List Item := [
      .record ⟨"a", "Left", [⟨"r", .optional (.record "a" "Right"), none, none⟩], none⟩,
      .record ⟨"a", "Right", [⟨"l", .record "a" "Left", none, none⟩], none⟩,
      .record ⟨"a", "Far",
        [⟨"p", .external ⟨"beta", "b", "P", .dataClass, false, false⟩, none, none⟩], none⟩]
    freeIdents items true = [⟨"a", "Far"⟩] ∧ freeIdents items false = [] := by
  decide

end Reachability
end Bindery
