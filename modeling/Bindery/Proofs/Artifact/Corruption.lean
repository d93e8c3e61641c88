import Bindery.Proofs.Artifact.Image
import Bindery.Proofs.Json.Closing
/-!
# Frames that were changed

A frame that is changed behind its magic, or cut off there, is refused, and with it the image. No
length but the right one leads to a text that is read, because the text of an item ends at its last
brace; with the length the digest is the right one too. Only two payloads with one digest pass for
each other.
-/
namespace Bindery.Artifact

open Outcome

namespace Frame

variable {item read : Item} {fields payload payload' rest more : List UInt8}

/-- A payload that is read is the bytes of a JSON text. -/
theorem text_of_readPayload (h : readPayload payload = .ok read) :
    ∃ text j, payload = Utf8.encodeChars text ∧ Json.parseChars text = .ok j := by
  unfold readPayload at h
  split at h
  · cases h
  · rename_i text htext
    split at h
    · cases h
    · rename_i j hj
      exact ⟨text, j, Utf8.decodeChars_eq_ok.1 htext, hj⟩

/-- Of the payload of an item and a zero behind it, nothing else is read. -/
theorem take_of_readPayload {n : Nat}
    (h : readPayload ((Frame.payload item ++ 0 :: more).take n) = .ok read) :
    (Frame.payload item ++ 0 :: more).take n = Frame.payload item := by
  obtain ⟨text, j, htext, hj⟩ := text_of_readPayload h
  have hsplit := List.take_append_drop n (Frame.payload item ++ 0 :: more)
  rw [htext] at hsplit ⊢
  suffices text = item.toJson.canonicalChars from congrArg Utf8.encodeChars this
  rw [item.canonicalChars_toJson]
  obtain ⟨left, hshorter, -⟩ | ⟨left, hlonger, hleft⟩ := List.append_eq_append_iff.1 hsplit
  · obtain ⟨w, hw, -⟩ := Utf8.text_of_encodeChars_append hshorter
    rw [item.canonicalChars_toJson] at hw
    rw [← List.append_nil (Json.compact _ _)] at hw
    exact Json.eq_of_parseChars hj hw.symm (by simp)
  · obtain ⟨tail, htail, rfl⟩ := Utf8.text_of_encodeChars_append hlonger
    rw [item.canonicalChars_toJson] at htail
    refine Json.eq_of_parseChars (w := []) hj (by rw [htail, List.append_nil]) fun c hc => ?_
    rw [Utf8.head_of_encodeChars hleft (by decide) c hc]
    decide

/-- What stands between the magic and the payload. -/
def header (payload : List UInt8) : List UInt8 :=
  littleEndian 2 version ++ littleEndian 2 0 ++ littleEndian 4 payload.length ++
    Sha256.digest payload

theorem length_header (payload : List UInt8) : (header payload).length = 40 := by
  simp [header]

theorem ofPayload_eq (payload : List UInt8) :
    ofPayload payload = magic ++ header payload ++ payload := by
  simp [ofPayload, header]

theorem length_magic_append (hlength : fields.length = 40) :
    (magic ++ fields).length = headerSize := by
  rw [List.length_append, hlength]
  rfl

/-- Bytes can be cut wherever they reach to. -/
theorem exists_front {n : Nat} (bytes : List UInt8) (h : n ≤ bytes.length) :
    ∃ front back, front.length = n ∧ bytes = front ++ back :=
  ⟨bytes.take n, bytes.drop n, List.length_take_of_le h, (List.take_append_drop n bytes).symm⟩

/-- The fields of whatever stands in the place of a header. -/
theorem exists_fields (h : fields.length = 40) :
    ∃ v f n d : List UInt8, v.length = 2 ∧ f.length = 2 ∧ n.length = 4 ∧ d.length = 32 ∧
      fields = v ++ f ++ n ++ d := by
  obtain ⟨v, fields, hv, rfl⟩ := exists_front (n := 2) fields (by omega)
  rw [List.length_append] at h
  obtain ⟨f, fields, hf, rfl⟩ := exists_front (n := 2) fields (by omega)
  rw [List.length_append] at h
  obtain ⟨n, d, hn, rfl⟩ := exists_front (n := 4) fields (by omega)
  rw [List.length_append] at h
  exact ⟨v, f, n, d, hv, hf, hn, by omega, by simp⟩

/-- A frame that is decoded has the version, no flags, and the length and digest of the bytes that
are read as its payload. -/
theorem decode_fields_eq_ok {v f n d body : List UInt8} (hv : v.length = 2) (hf : f.length = 2)
    (hn : n.length = 4) (hd : d.length = 32) {decoded : Item × List UInt8}
    (h : decode (magic ++ (v ++ f ++ n ++ d) ++ body) = .ok decoded) :
    ofLittleEndian v = version ∧ ofLittleEndian f = 0 ∧ ofLittleEndian n ≤ body.length ∧
      Sha256.digest (body.take (ofLittleEndian n)) = d ∧
      ∃ read, readPayload (body.take (ofLittleEndian n)) = .ok read := by
  have hfields := decode_fields hv hf hn hd body
  simp only [List.append_assoc] at h hfields
  rw [h] at hfields
  split at hfields
  · cases hfields
  split at hfields
  · cases hfields
  split at hfields
  · cases hfields
  split at hfields
  · cases hfields
  rename_i hversion hflags hlength hdigest
  obtain ⟨read, hread, -⟩ := map_eq_ok.1 hfields.symm
  exact ⟨not_not.1 hversion, not_not.1 hflags, Nat.not_lt.1 hlength, not_not.1 hdigest, read, hread⟩

/-- In front of the payload of an item only its own header is taken. -/
theorem header_of_decode (hlength : fields.length = 40)
    (hsize : (Frame.payload item).length < 2 ^ 32) {decoded : Item × List UInt8}
    (h : decode (magic ++ fields ++ (Frame.payload item ++ 0 :: more)) = .ok decoded) :
    fields = header (Frame.payload item) := by
  obtain ⟨v, f, n, d, hv, hf, hn, hd, rfl⟩ := exists_fields hlength
  obtain ⟨hversion, hflags, hcount, hdigest, read, hread⟩ := decode_fields_eq_ok hv hf hn hd h
  have htake := take_of_readPayload hread
  have hcount : ofLittleEndian n = (Frame.payload item).length := by
    rw [← htake, List.length_take_of_le hcount]
  rw [htake] at hdigest
  have hv' : v = littleEndian 2 version :=
    eq_of_ofLittleEndian (by rw [hv, length_littleEndian]) (hversion.trans (by decide))
  have hf' : f = littleEndian 2 0 :=
    eq_of_ofLittleEndian (by rw [hf, length_littleEndian]) (hflags.trans (by decide))
  have hn' : n = littleEndian 4 (Frame.payload item).length :=
    eq_of_ofLittleEndian (by rw [hn, length_littleEndian])
      (hcount.trans (ofLittleEndian_littleEndian 4 hsize).symm)
  rw [hv', hf', hn', ← hdigest, header]

/-- Behind the header of a payload only bytes of its length and digest are taken. -/
theorem decode_header_eq_ok {body : List UInt8} (hsize : payload.length < 2 ^ 32)
    {decoded : Item × List UInt8} (h : decode (magic ++ header payload ++ body) = .ok decoded) :
    payload.length ≤ body.length ∧
      Sha256.digest (body.take payload.length) = Sha256.digest payload := by
  obtain ⟨-, -, hlength, hdigest, -⟩ := decode_fields_eq_ok (length_littleEndian 2 version)
    (length_littleEndian 2 0) (length_littleEndian 4 payload.length)
    (Sha256.length_digest payload) h
  rw [ofLittleEndian_littleEndian 4 hsize] at hlength hdigest
  exact ⟨hlength, hdigest⟩

/-- A frame that is read has the digest its header tells. -/
theorem digest_of_decode (hlength : payload'.length = payload.length)
    (hsize : payload.length < 2 ^ 32) {decoded : Item × List UInt8}
    (h : decode (magic ++ header payload ++ (payload' ++ rest)) = .ok decoded) :
    Sha256.digest payload' = Sha256.digest payload := by
  have hdigest := (decode_header_eq_ok hsize h).2
  rwa [← hlength, List.take_left] at hdigest

/-- A frame that is cut off anywhere is not decoded. -/
theorem decode_take {n : Nat} (hsize : payload.length < 2 ^ 32)
    (hn : n < headerSize + payload.length) (rest : List UInt8) (decoded : Item × List UInt8) :
    decode ((magic ++ header payload ++ (payload ++ rest)).take n) ≠ .ok decoded := by
  have hhead := length_magic_append (length_header payload)
  intro h
  obtain hshort | hlong := Nat.lt_or_ge n headerSize
  · rw [decode, if_pos ((List.length_take_le n _).trans_lt hshort)] at h
    cases h
  · rw [List.take_append, hhead, List.take_of_length_le (by omega),
      List.take_append_of_le_length (by omega)] at h
    have hlength := (decode_header_eq_ok hsize h).1
    rw [List.length_take] at hlength
    omega

end Frame

/-- The scan ends with a fault. -/
def Refused (bytes : List UInt8) : Prop := ∃ fault, scan bytes = .error fault

variable {magic bytes changed : List UInt8} {front back : List Item} {item : Item}

/-- Frames that are passed or refused stand before it. -/
theorem scanFrom_broken (hsize : ∀ item ∈ front, (Frame.payload item).length < 2 ^ 32)
    {gap : List UInt8} (hgap : frameByte ∉ gap) (hmagic : Frame.magic <+: bytes)
    (hbroken : ∀ decoded, Frame.decode bytes ≠ .ok decoded) {fuel : Nat}
    (hfuel : front.length < fuel) (offset : Nat) :
    ∃ fault, scanFrom fuel offset (gap ++ (frames front ++ bytes)) = .error fault := by
  induction front generalizing gap fuel offset with
  | nil =>
    obtain ⟨fuel, rfl⟩ := Nat.exists_eq_add_one_of_ne_zero (by omega : fuel ≠ 0)
    rw [frames, List.flatMap_nil, List.nil_append, scanFrom, findFrame_skip hgap,
      findFrame_of_magic hmagic]
    cases hdecode : Frame.decode bytes with
    | error fault => exact ⟨⟨offset + gap.length, fault⟩, by simp only [hdecode]⟩
    | ok decoded => exact absurd hdecode (hbroken decoded)
  | cons item front ih =>
    obtain ⟨fuel, rfl⟩ := Nat.exists_eq_add_one_of_ne_zero (by omega : fuel ≠ 0)
    have hframes : frames (item :: front) ++ bytes =
        Frame.encode item ++ (gapAfter ++ (frames front ++ bytes)) := by
      simp [frames]
    have hmore : front.length < fuel := by simpa using hfuel
    rw [hframes, scanFrom_encode (hsize item (by simp)) hgap]
    cases Frame.reread item with
    | error fault => exact ⟨_, rfl⟩
    | ok read =>
      simp only [map_eq_error]
      exact ih (fun other h => hsize other (List.mem_cons_of_mem _ h)) not_mem_gapAfter hmore _

theorem image_append (magic : List UInt8) (front items : List Item) :
    image magic (front ++ items) = image magic front ++ frames items := by
  simp [image, frames, gapAfter]

theorem image_eq (magic : List UInt8) (items : List Item) :
    image magic items = magic ++ List.replicate 60 0 ++ frames items := rfl

/-- An image with a frame that cannot be read is refused. -/
theorem refused_of_broken (himage : magic ∈ imageMagics)
    (hsize : ∀ item ∈ front, (Frame.payload item).length < 2 ^ 32) (hmagic : Frame.magic <+: bytes)
    (hbroken : ∀ decoded, Frame.decode bytes ≠ .ok decoded) :
    Refused (image magic front ++ bytes) := by
  have hlength := length_le_length_frames front
  have hfuel : front.length < (image magic front ++ bytes).length + 1 := by
    simp only [image_eq, List.length_append]
    omega
  obtain ⟨fault, hfault⟩ :=
    scanFrom_broken hsize (not_mem_imageMagic himage) hmagic hbroken hfuel 0
  refine ⟨fault, ?_⟩
  rw [scan, ← hfault, image_eq, List.append_assoc]

/-- The bytes of a range, and only they, are others. -/
structure ChangedWithin (low high : Nat) (bytes changed : List UInt8) : Prop where
  length : changed.length = bytes.length
  same : ∀ i, i < low ∨ high ≤ i → changed[i]? = bytes[i]?
  differs : changed ≠ bytes

theorem changedWithin_set {low high i : Nat} {old new : UInt8} (hlow : low ≤ i) (hhigh : i < high)
    (hold : bytes[i]? = some old) (hne : old ≠ new) :
    ChangedWithin low high bytes (bytes.set i new) where
  length := List.length_set
  same j hj := List.getElem?_set_ne (by omega)
  differs h := by
    have hnew := List.getElem?_set_self (a := new) (List.getElem?_eq_some_iff.1 hold).1
    rw [h, hold] at hnew
    exact hne (Option.some.inj hnew)

/-- A change of the bytes in the middle leaves those on both sides and the length. -/
theorem ChangedWithin.exists_eq {a b c : List UInt8}
    (h : ChangedWithin a.length (a.length + b.length) (a ++ (b ++ c)) changed) :
    ∃ b', changed = a ++ (b' ++ c) ∧ b'.length = b.length ∧ b' ≠ b := by
  have hlength := h.length
  simp only [List.length_append] at hlength
  have hfront : changed.take a.length = a := by
    refine List.ext_getElem? fun i => ?_
    rw [List.getElem?_take]
    split
    · rename_i hi
      rw [h.same i (.inl hi), List.getElem?_append_left hi]
    · rename_i hi
      rw [List.getElem?_eq_none (Nat.not_lt.1 hi)]
  have hback : changed.drop (a.length + b.length) = c := by
    refine List.ext_getElem? fun i => ?_
    rw [List.getElem?_drop, h.same _ (.inr (Nat.le_add_right _ _)), Nat.add_assoc,
      List.getElem?_append_right (by omega), List.getElem?_append_right (by omega)]
    congr 1
    omega
  have hsplit : changed = a ++ ((changed.drop a.length).take b.length ++ c) := by
    conv_lhs => rw [← List.take_append_drop a.length changed, hfront]
    rw [← hback, ← List.drop_drop, List.take_append_drop]
  refine ⟨_, hsplit, ?_, fun hsame => h.differs ?_⟩
  · rw [List.length_take_of_le]
    rw [List.length_drop]
    omega
  · rw [hsplit, hsame]

/-- Two payloads that a frame cannot tell apart. -/
structure Collide (payload payload' : List UInt8) : Prop where
  differ : payload ≠ payload'
  digest : Sha256.digest payload = Sha256.digest payload'

/-- The frame of an item between what stands in front of it and what stands behind it. -/
theorem exists_image_eq (magic : List UInt8) (front : List Item) (item : Item) (back : List Item) :
    ∃ more, image magic (front ++ item :: back) = image magic front ++
      (Frame.magic ++ Frame.header (Frame.payload item) ++ (Frame.payload item ++ 0 :: more)) := by
  refine ⟨List.replicate 7 0 ++ frames back, ?_⟩
  rw [image_append]
  congr 1
  have hframes : frames (item :: back) = Frame.ofPayload (Frame.payload item) ++
      (0 :: (List.replicate 7 0 ++ frames back)) := by
    simp [frames, gapAfter, Frame.encode, List.replicate]
  rw [hframes, Frame.ofPayload_eq, List.append_assoc]

section

variable (himage : magic ∈ imageMagics)
  (hsize : ∀ other ∈ front ++ item :: back, (Frame.payload other).length < 2 ^ 32)

include himage hsize

/-- Whatever stands in the place of a frame, if it starts with the magic and is not decoded. -/
theorem refused_at {rest : List UInt8}
    (hbroken : ∀ decoded, Frame.decode (Frame.magic ++ rest) ≠ .ok decoded) :
    Refused (image magic front ++ (Frame.magic ++ rest)) :=
  refused_of_broken himage (fun other hother => hsize other (List.mem_append_left _ hother))
    (List.prefix_append _ _) hbroken

/-- An image with another header in one of its frames is refused. -/
theorem refused_of_header
    (h : ChangedWithin ((image magic front).length + Frame.magic.length)
      ((image magic front).length + Frame.headerSize) (image magic (front ++ item :: back))
      changed) :
    Refused changed := by
  obtain ⟨more, hbytes⟩ := exists_image_eq magic front item back
  have hhead := Frame.length_magic_append (Frame.length_header (Frame.payload item))
  rw [hbytes, ← hhead, List.length_append, ← Nat.add_assoc, ← List.length_append, List.append_assoc,
    ← List.append_assoc] at h
  obtain ⟨fields, rfl, hlength, hne⟩ := h.exists_eq
  rw [Frame.length_header] at hlength
  rw [List.append_assoc]
  refine refused_at himage hsize fun decoded hdecode => hne ?_
  rw [← List.append_assoc] at hdecode
  exact Frame.header_of_decode hlength (hsize item (by simp)) hdecode

theorem refused_of_payload
    (h : ChangedWithin ((image magic front).length + Frame.headerSize)
      ((image magic front).length + Frame.headerSize + (Frame.payload item).length)
      (image magic (front ++ item :: back)) changed) :
    Refused changed ∨ Collide (Frame.payload item)
      ((changed.drop ((image magic front).length + Frame.headerSize)).take
        (Frame.payload item).length) := by
  obtain ⟨more, hbytes⟩ := exists_image_eq magic front item back
  have hhead := Frame.length_magic_append (Frame.length_header (Frame.payload item))
  rw [hbytes, ← List.append_assoc (image magic front), ← hhead, ← List.length_append] at h
  rw [← hhead, ← List.length_append]
  obtain ⟨payload, rfl, hlength, hne⟩ := h.exists_eq
  rw [List.drop_left, ← hlength, List.take_left]
  by_cases hdigest : Sha256.digest (Frame.payload item) = Sha256.digest payload
  · exact .inr ⟨hne.symm, hdigest⟩
  · left
    rw [List.append_assoc, List.append_assoc Frame.magic]
    refine refused_at himage hsize fun decoded hdecode => hdigest ?_
    rw [← List.append_assoc] at hdecode
    exact (Frame.digest_of_decode hlength (hsize item (by simp)) hdecode).symm

/-- An image that ends inside a frame, behind its magic, is refused. -/
theorem refused_of_take {n : Nat} (hlow : (image magic front).length + Frame.magic.length ≤ n)
    (hhigh : n < (image magic front).length + Frame.headerSize + (Frame.payload item).length) :
    Refused ((image magic (front ++ item :: back)).take n) := by
  obtain ⟨more, hbytes⟩ := exists_image_eq magic front item back
  obtain ⟨k, rfl⟩ := Nat.exists_eq_add_of_le (Nat.le_trans (Nat.le_add_right _ _) hlow)
  have hcut := Frame.decode_take (n := k) (hsize item (by simp)) (by omega) (0 :: more)
  rw [List.append_assoc, List.take_append, List.take_of_length_le (by omega)] at hcut
  rw [hbytes, List.take_length_add_append, List.append_assoc Frame.magic, List.take_append,
    List.take_of_length_le (by omega)]
  exact refused_at himage hsize hcut

end

/-- A frame in an image cannot be changed or cut off behind its magic without the image being
refused, but for a payload of the same length and digest. -/
theorem corruption_refused (himage : magic ∈ imageMagics)
    (hsize : ∀ other ∈ front ++ item :: back, (Frame.payload other).length < 2 ^ 32) :
    let start := (image magic front).length
    let body := start + Frame.headerSize
    let stop := body + (Frame.payload item).length
    (∀ changed, ChangedWithin (start + Frame.magic.length) body
        (image magic (front ++ item :: back)) changed → Refused changed) ∧
      (∀ changed, ChangedWithin body stop (image magic (front ++ item :: back)) changed →
        Refused changed ∨ Collide (Frame.payload item)
          ((changed.drop body).take (Frame.payload item).length)) ∧
      ∀ n, start + Frame.magic.length ≤ n → n < stop →
        Refused ((image magic (front ++ item :: back)).take n) :=
  ⟨fun _ h => refused_of_header himage hsize h, fun _ h => refused_of_payload himage hsize h,
    fun _ hlow hhigh => refused_of_take himage hsize hlow hhigh⟩

/-- A length with which zeros of the gap count as payload, and an image that ends inside its last
payload. -/
theorem corruption_refused_length :
    let front : List Item := [.space ⟨"a", "one"⟩]
    let item : Item := .record { modulePath := "a::\x00", name := "R\"\\UBINDMD\x00", fields := [] }
    (∀ other ∈ front ++ [item], (Frame.payload other).length < 2 ^ 32) ∧
      Refused ((image elfMagic (front ++ [item])).set ((image elfMagic front).length + 12) 0x68) ∧
      Refused ((image elfMagic (front ++ [item])).take ((image elfMagic front).length + 60)) := by
  intro front item
  have hsize : ∀ other ∈ front ++ [item], (Frame.payload other).length < 2 ^ 32 := by
    decide +kernel
  obtain ⟨hheader, -, hcut⟩ := corruption_refused (by decide : elfMagic ∈ imageMagics) hsize
  have hold : (image elfMagic (front ++ [item]))[(image elfMagic front).length + 12]? =
      some 0x64 := by decide +kernel
  refine ⟨hsize, hheader _ (changedWithin_set ?_ ?_ hold (by decide)), hcut _ ?_ ?_⟩
  · decide +kernel
  · decide +kernel
  · decide +kernel
  · decide +kernel

end Bindery.Artifact
