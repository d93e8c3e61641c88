import Bindery.Proofs.Group.Resolution
import Bindery.Proofs.Reachability.Fields
/-!
# What a library sees of the types of other libraries

Resolution goes into a type as far as the first custom type of another library, and puts a stamped
reference in the place of every foreign type. So the links of a resolved item can be told from what
the item mentions.
-/
namespace Bindery.Resolution

open Outcome

/-- A module path of another library. -/
def Context.IsForeign (ctx : Context) (path : String) : Prop := libraryOf path ≠ ctx.library

/-- What resolution makes of a type: its own types stay, foreign types become references with a
stamp, and of a foreign custom type nothing else is seen. -/
inductive Becomes (ctx : Context) : Ty → Ty → Prop where
  | primitive (kind : Primitive) : Becomes ctx (.primitive kind) (.primitive kind)
  | record {path name : String} : ¬ ctx.IsForeign path →
      Becomes ctx (.record path name) (.record path name)
  | enumeration {path name : String} : ¬ ctx.IsForeign path →
      Becomes ctx (.enumeration path name) (.enumeration path name)
  | object {path name : String} : ¬ ctx.IsForeign path →
      Becomes ctx (.object path name) (.object path name)
  | callback {path name : String} : ¬ ctx.IsForeign path →
      Becomes ctx (.callback path name) (.callback path name)
  | foreignRecord {path name owner : String} : ctx.IsForeign path →
      Becomes ctx (.record path name)
        (.external ⟨owner, path, name, .dataClass, false, decide (⟨path, name⟩ ∉ ctx.free)⟩)
  | foreignEnumeration {path name owner : String} : ctx.IsForeign path →
      Becomes ctx (.enumeration path name)
        (.external ⟨owner, path, name, .dataClass, false, decide (⟨path, name⟩ ∉ ctx.free)⟩)
  | foreignObject {path name owner : String} : ctx.IsForeign path →
      Becomes ctx (.object path name) (.external ⟨owner, path, name, .interface, false, true⟩)
  | foreignCustom {path name owner : String} {builtin : Ty} : ctx.IsForeign path →
      Becomes ctx (.custom path name builtin)
        (.external ⟨owner, path, name, .dataClass, false, true⟩)
  | custom {path name : String} {builtin builtin' : Ty} : ¬ ctx.IsForeign path →
      Becomes ctx builtin builtin' →
      Becomes ctx (.custom path name builtin) (.custom path name builtin')
  | optional {inner inner' : Ty} : Becomes ctx inner inner' →
      Becomes ctx (.optional inner) (.optional inner')
  | sequence {inner inner' : Ty} : Becomes ctx inner inner' →
      Becomes ctx (.sequence inner) (.sequence inner')
  | map {key key' value value' : Ty} : Becomes ctx key key' → Becomes ctx value value' →
      Becomes ctx (.map key value) (.map key' value')
  | external {target : External} {owner : String} :
      Becomes ctx (.external target) (.external { target with namespaceName := owner })

variable {ctx : Context} {item resolved : Item}

theorem isForeign_iff (path : String) : isForeign ctx path = true ↔ ctx.IsForeign path := by
  simp [isForeign, Context.IsForeign]

/-- A reference that is made carries the flag it was made with. -/
theorem refer_eq_ok {path name : String} {kind : ExternalKind} {flag : Bool} {t : Ty}
    (h : refer ctx path name kind flag = .ok t) :
    ∃ owner, t = .external ⟨owner, path, name, kind, false, flag⟩ := by
  obtain ⟨owner, -, rfl⟩ := map_eq_ok.1 h
  exact ⟨owner, rfl⟩

/-- A type becomes its resolved form. -/
theorem becomes_of_resolveTy {t t' : Ty} (h : resolveTy ctx t = .ok t') : Becomes ctx t t' := by
  induction t generalizing t' with
  | primitive kind =>
    obtain rfl := Except.ok.inj h
    exact .primitive kind
  | record path name =>
    by_cases hf : ctx.IsForeign path
    · simp only [resolveTy, (isForeign_iff path).2 hf, if_true] at h
      obtain ⟨owner, rfl⟩ := refer_eq_ok h
      exact .foreignRecord hf
    · simp only [resolveTy, isForeign_iff, hf, if_false] at h
      obtain rfl := Except.ok.inj h
      exact .record hf
  | enumeration path name =>
    by_cases hf : ctx.IsForeign path
    · simp only [resolveTy, (isForeign_iff path).2 hf, if_true] at h
      obtain ⟨owner, rfl⟩ := refer_eq_ok h
      exact .foreignEnumeration hf
    · simp only [resolveTy, isForeign_iff, hf, if_false] at h
      obtain rfl := Except.ok.inj h
      exact .enumeration hf
  | object path name =>
    by_cases hf : ctx.IsForeign path
    · simp only [resolveTy, (isForeign_iff path).2 hf, if_true] at h
      obtain ⟨owner, rfl⟩ := refer_eq_ok h
      exact .foreignObject hf
    · simp only [resolveTy, isForeign_iff, hf, if_false] at h
      obtain rfl := Except.ok.inj h
      exact .object hf
  | callback path name =>
    by_cases hf : ctx.IsForeign path
    · simp only [resolveTy, (isForeign_iff path).2 hf, if_true] at h
      cases h
    · simp only [resolveTy, isForeign_iff, hf, if_false] at h
      obtain rfl := Except.ok.inj h
      exact .callback hf
  | custom path name builtin ih =>
    by_cases hf : ctx.IsForeign path
    · simp only [resolveTy, (isForeign_iff path).2 hf, if_true] at h
      obtain ⟨owner, rfl⟩ := refer_eq_ok h
      exact .foreignCustom hf
    · simp only [resolveTy, isForeign_iff, hf, if_false] at h
      obtain ⟨builtin', hbuiltin, rfl⟩ := map_eq_ok.1 h
      exact .custom hf (ih hbuiltin)
  | optional inner ih =>
    obtain ⟨inner', hinner, rfl⟩ := map_eq_ok.1 h
    exact .optional (ih hinner)
  | sequence inner ih =>
    obtain ⟨inner', hinner, rfl⟩ := map_eq_ok.1 h
    exact .sequence (ih hinner)
  | map key value ihkey ihvalue =>
    obtain ⟨key', hkey, hrest⟩ := bind_eq_ok.1 h
    obtain ⟨value', hvalue, hend⟩ := bind_eq_ok.1 hrest
    obtain rfl := Except.ok.inj hend
    exact .map (ihkey hkey) (ihvalue hvalue)
  | external target =>
    obtain ⟨owner, -, hrest⟩ := bind_eq_ok.1 h
    split at hrest
    · cases hrest
    · obtain rfl := Except.ok.inj hrest
      exact .external

/-- What stands in a resolved type comes from something that stands in the type. -/
theorem Becomes.exists_source {t t' u' : Ty} (h : Becomes ctx t t') (hu : u'.Within t') :
    ∃ u : Ty, u.Within t ∧ Becomes ctx u u' := by
  induction hu generalizing t with
  | here => exact ⟨t, .here, h⟩
  | optional _ ih =>
    cases h with
    | optional hinner =>
      obtain ⟨u, hu, hbecomes⟩ := ih hinner
      exact ⟨u, .optional hu, hbecomes⟩
  | sequence _ ih =>
    cases h with
    | sequence hinner =>
      obtain ⟨u, hu, hbecomes⟩ := ih hinner
      exact ⟨u, .sequence hu, hbecomes⟩
  | key _ _ ih =>
    cases h with
    | map hkey =>
      obtain ⟨u, hu, hbecomes⟩ := ih hkey
      exact ⟨u, .key _ hu, hbecomes⟩
  | value _ _ ih =>
    cases h with
    | map _ hvalue =>
      obtain ⟨u, hu, hbecomes⟩ := ih hvalue
      exact ⟨u, .value _ hu, hbecomes⟩
  | builtin _ _ _ ih =>
    cases h with
    | custom _ hbuiltin =>
      obtain ⟨u, hu, hbecomes⟩ := ih hbuiltin
      exact ⟨u, .builtin _ _ hu, hbecomes⟩

/-- Something is seen in a resolved type, or what is seen there of a foreign custom type may hide
it. -/
def Seen (ctx : Context) (u t t' : Ty) : Prop :=
  (∃ u' : Ty, u'.Within t' ∧ Becomes ctx u u') ∨
    ∃ path name builtin c', ctx.IsForeign path ∧ (Ty.custom path name builtin).Within t ∧
      c'.Within t' ∧ Becomes ctx (.custom path name builtin) c'

theorem Seen.lift {u t t' s s' : Ty} (h : Seen ctx u t t')
    (hsource : ∀ v : Ty, v.Within t → v.Within s)
    (htarget : ∀ v : Ty, v.Within t' → v.Within s') : Seen ctx u s s' := by
  obtain ⟨u', hu', hbecomes⟩ | ⟨path, name, builtin, c', hforeign, hc, hc', hbecomes⟩ := h
  · exact .inl ⟨u', htarget u' hu', hbecomes⟩
  · exact .inr ⟨path, name, builtin, c', hforeign, hsource _ hc, htarget c' hc', hbecomes⟩

/-- What stands in a type is seen in the resolved type, unless a foreign custom type hides it. -/
theorem Becomes.seen {t t' u : Ty} (h : Becomes ctx t t') (hu : u.Within t) : Seen ctx u t t' := by
  induction hu generalizing t' with
  | here => exact .inl ⟨t', .here, h⟩
  | optional _ ih =>
    cases h with
    | optional hinner => exact (ih hinner).lift (fun _ => .optional) fun _ => .optional
  | sequence _ ih =>
    cases h with
    | sequence hinner => exact (ih hinner).lift (fun _ => .sequence) fun _ => .sequence
  | key value _ ih =>
    cases h with
    | map hkey hvalue => exact (ih hkey).lift (fun _ => .key _) fun _ => .key _
  | value key _ ih =>
    cases h with
    | map hkey hvalue => exact (ih hvalue).lift (fun _ => .value _) fun _ => .value _
  | builtin path name _ ih =>
    cases h with
    | foreignCustom hforeign =>
      exact .inr ⟨_, _, _, _, hforeign, .here, .here, .foreignCustom hforeign⟩
    | custom _ hbuiltin => exact (ih hbuiltin).lift (fun _ => .builtin _ _) fun _ => .builtin _ _

/-- Whatever a resolved item mentions came from a type the item mentions. -/
theorem Keeps.exists_source (h : Keeps ctx item resolved) {u' : Ty} (hu : resolved.Mentions u') :
    ∃ u, item.Mentions u ∧ Becomes ctx u u' := by
  obtain ⟨t', ht', hwithin⟩ := (resolved.mentions_iff_within u').1 hu
  obtain ⟨t, ht, hresolves⟩ := exists_left h.fieldTypes ht'
  obtain ⟨u, hu, hbecomes⟩ := (becomes_of_resolveTy hresolves).exists_source hwithin
  exact ⟨u, (item.mentions_iff_within u).2 ⟨t, ht, hu⟩, hbecomes⟩

/-- Whatever an item mentions is seen in the resolved item, or hidden in a custom type of another
library. -/
theorem Keeps.seen (h : Keeps ctx item resolved) {u : Ty} (hu : item.Mentions u) :
    (∃ u', resolved.Mentions u' ∧ Becomes ctx u u') ∨
      ∃ path name builtin c', ctx.IsForeign path ∧ item.Mentions (.custom path name builtin) ∧
        resolved.Mentions c' ∧ Becomes ctx (.custom path name builtin) c' := by
  obtain ⟨t, ht, hwithin⟩ := (item.mentions_iff_within u).1 hu
  obtain ⟨t', ht', hresolves⟩ := exists_right h.fieldTypes ht
  have hsource : ∀ v : Ty, v.Within t → item.Mentions v :=
    fun v hv => (item.mentions_iff_within v).2 ⟨t, ht, hv⟩
  have htarget : ∀ v : Ty, v.Within t' → resolved.Mentions v :=
    fun v hv => (resolved.mentions_iff_within v).2 ⟨t', ht', hv⟩
  obtain ⟨u', hu', hbecomes⟩ | ⟨path, name, builtin, c', hforeign, hc, hc', hbecomes⟩ :=
    (becomes_of_resolveTy hresolves).seen hwithin
  · exact .inl ⟨u', htarget u' hu', hbecomes⟩
  · exact .inr ⟨path, name, builtin, c', hforeign, hsource _ hc, htarget c' hc', hbecomes⟩

/-- No field leads to a handle, as far as the library itself can tell. -/
structure Clear (ctx : Context) (resolved : Item) : Prop where
  handle : .handle ∉ resolved.links
  stamp : ∀ id : Ident, ctx.IsForeign id.modulePath → .target id (some true) ∉ resolved.links

/-- No field leads to a handle or to a foreign custom type, and every foreign identifier that one
leads to is free. -/
structure Open (ctx : Context) (item : Item) : Prop where
  handle : .handle ∉ item.links
  custom : ∀ path name builtin, ctx.IsForeign path → ¬ item.Mentions (.custom path name builtin)
  free : ∀ id, ctx.IsForeign id.modulePath → .target id none ∈ item.links → id ∈ ctx.free

theorem mem_links_of_mentions {item : Item} {t : Ty} {link : Link} (h : item.Mentions t)
    (hlink : t.link? = some link) : link ∈ item.links :=
  (item.mem_links_iff link).2 ⟨t, h, hlink⟩

/-- Of a foreign custom type a reference is seen that may lead to a handle. -/
theorem stamp_of_custom {path name : String} {builtin c' : Ty} (hforeign : ctx.IsForeign path)
    (hbecomes : Becomes ctx (.custom path name builtin) c') (hc' : resolved.Mentions c') :
    .target ⟨path, name⟩ (some true) ∈ resolved.links := by
  cases hbecomes with
  | foreignCustom => exact mem_links_of_mentions hc' rfl
  | custom hown => exact absurd hforeign hown

/-- What an item mentions is seen in its resolved form, if that meets no handle. -/
theorem Keeps.seen_of_clear (h : Keeps ctx item resolved) (hclear : Clear ctx resolved) {u : Ty}
    (hu : item.Mentions u) : ∃ u', resolved.Mentions u' ∧ Becomes ctx u u' := by
  obtain hseen | ⟨path, name, builtin, c', hforeign, -, hc', hbecomes⟩ := h.seen hu
  · exact hseen
  · exact absurd (stamp_of_custom hforeign hbecomes hc') (hclear.stamp ⟨path, name⟩ hforeign)

theorem Keeps.open_of_clear (h : Keeps ctx item resolved) (hclear : Clear ctx resolved) :
    Open ctx item where
  handle := by
    intro hmem
    obtain ⟨path, name, hu⟩ := (Reachability.handle_mem_links_iff item).1 hmem
    obtain ⟨u', hu', hbecomes⟩ := h.seen_of_clear hclear hu
    cases hbecomes with
    | object => exact hclear.handle (mem_links_of_mentions hu' rfl)
    | foreignObject hforeign =>
      exact hclear.stamp ⟨path, name⟩ hforeign (mem_links_of_mentions hu' rfl)
  custom := by
    intro path name builtin hforeign hu
    obtain ⟨c', hc', hbecomes⟩ := h.seen_of_clear hclear hu
    exact hclear.stamp ⟨path, name⟩ hforeign (stamp_of_custom hforeign hbecomes hc')
  free := by
    intro id hforeign hmem
    obtain ⟨u, hu, hlink⟩ := (item.mem_links_iff _).1 hmem
    obtain ⟨u', hu', hbecomes⟩ := h.seen_of_clear hclear hu
    by_contra hfree
    cases hbecomes with
    | record hown | enumeration hown =>
      obtain ⟨rfl, -⟩ := Link.target.inj (Option.some.inj hlink)
      exact hown hforeign
    | foreignRecord | foreignEnumeration =>
      obtain ⟨rfl, -⟩ := Link.target.inj (Option.some.inj hlink)
      have hstamp := mem_links_of_mentions hu' rfl
      rw [decide_eq_true hfree] at hstamp
      exact hclear.stamp _ hforeign hstamp
    | _ => cases hlink

theorem Keeps.clear_of_open (h : Keeps ctx item resolved)
    (hplain : ∀ e, ¬ item.Mentions (.external e)) (hopen : Open ctx item) : Clear ctx resolved where
  handle := by
    intro hmem
    obtain ⟨path, name, hu'⟩ := (Reachability.handle_mem_links_iff resolved).1 hmem
    obtain ⟨u, hu, hbecomes⟩ := h.exists_source hu'
    cases hbecomes with
    | object => exact hopen.handle (mem_links_of_mentions hu rfl)
  stamp := by
    intro id hforeign hmem
    obtain ⟨e, hu', rfl, hflag⟩ := Reachability.flagged_mem_links hmem
    obtain ⟨u, hu, hbecomes⟩ := h.exists_source hu'
    cases hbecomes with
    | foreignRecord | foreignEnumeration =>
      exact of_decide_eq_true hflag (hopen.free _ hforeign (mem_links_of_mentions hu rfl))
    | foreignObject => exact hopen.handle (mem_links_of_mentions hu rfl)
    | foreignCustom => exact hopen.custom _ _ _ hforeign hu
    | external => exact hplain _ hu

/-- A foreign identifier that a resolved item leads to has a stamp. An own one has none, and the
item itself leads to it. -/
theorem Keeps.target_mem (h : Keeps ctx item resolved)
    (hplain : ∀ e, ¬ item.Mentions (.external e)) {id : Ident} {stamp : Option Bool}
    (hmem : .target id stamp ∈ resolved.links) :
    ctx.IsForeign id.modulePath ∧ stamp ≠ none ∨
      ¬ ctx.IsForeign id.modulePath ∧ stamp = none ∧ .target id none ∈ item.links := by
  obtain ⟨u', hu', hlink⟩ := (resolved.mem_links_iff _).1 hmem
  obtain ⟨u, hu, hbecomes⟩ := h.exists_source hu'
  cases hbecomes with
  | record hown | enumeration hown =>
    obtain ⟨rfl, rfl⟩ := Link.target.inj (Option.some.inj hlink)
    exact .inr ⟨hown, rfl, mem_links_of_mentions hu rfl⟩
  | foreignRecord hforeign | foreignEnumeration hforeign | foreignObject hforeign
  | foreignCustom hforeign =>
    obtain ⟨rfl, rfl⟩ := Link.target.inj (Option.some.inj hlink)
    exact .inl ⟨hforeign, nofun⟩
  | external => exact absurd hu (hplain _)
  | _ => cases hlink

theorem Keeps.target_of_clear (h : Keeps ctx item resolved) (hclear : Clear ctx resolved)
    {id : Ident} (hown : ¬ ctx.IsForeign id.modulePath) (hmem : .target id none ∈ item.links) :
    .target id none ∈ resolved.links := by
  obtain ⟨u, hu, hlink⟩ := (item.mem_links_iff _).1 hmem
  obtain ⟨u', hu', hbecomes⟩ := h.seen_of_clear hclear hu
  cases hbecomes with
  | record | enumeration =>
    obtain ⟨rfl, -⟩ := Link.target.inj (Option.some.inj hlink)
    exact mem_links_of_mentions hu' rfl
  | foreignRecord hforeign | foreignEnumeration hforeign =>
    obtain ⟨rfl, -⟩ := Link.target.inj (Option.some.inj hlink)
    exact absurd hforeign hown
  | _ => cases hlink

end Bindery.Resolution
