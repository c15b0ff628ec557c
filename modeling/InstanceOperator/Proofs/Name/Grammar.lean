import InstanceOperator.Name.Dns

/-!
# The grammars of names

The two forms of name, stated as languages over lists of characters. A part is `[a-z0-9]` or
`[a-z]` alone, or followed by `[-a-z0-9]*[a-z0-9]`; a label is one part that begins with a letter,
and a subdomain is one part or more with a dot between each two.

* `Dns.Part`, `Dns.Subdomain`: the languages.
* `Dns.part_iff`: a part by its two ends and its characters.
* `Dns.isPart_iff`: the checks of bytes accept the parts, since a character of more than one byte
  has none that they allow.
* `Dns.isLabel_iff`, `Dns.isSubdomain_iff`: the checks accept these languages, up to their limits.
* `Dns.checks_accept_grammars`: both, in full.
-/

namespace InstanceOperator.Dns

/-! ## The languages -/

/-- A character of `[a-z]`. -/
def Letter (c : Char) : Prop := 'a' ≤ c ∧ c ≤ 'z'

/-- A character of `[a-z0-9]`. -/
def Edge (c : Char) : Prop := Letter c ∨ ('0' ≤ c ∧ c ≤ '9')

/-- A character of `[-a-z0-9]`. -/
def Inner (c : Char) : Prop := Edge c ∨ c = '-'

/-- A first character, and perhaps inner characters with an edge behind them. -/
inductive Part (First : Char → Prop) : List Char → Prop where
  | one {a : Char} (ha : First a) : Part First [a]
  | more {a z : Char} {cs : List Char} (ha : First a) (hcs : ∀ c ∈ cs, Inner c) (hz : Edge z) :
      Part First (a :: (cs ++ [z]))

/-- Parts with dots between them. -/
inductive Subdomain : List Char → Prop where
  | part {cs : List Char} (h : Part Edge cs) : Subdomain cs
  | dotted {cs rest : List Char} (h : Part Edge cs) (hrest : Subdomain rest) :
      Subdomain (cs ++ '.' :: rest)

/-- A text that is a label and has at most 63 bytes. -/
def LabelText (s : String) : Prop := Part Letter s.toList ∧ s.utf8ByteSize ≤ 63

/-- A text that is a subdomain and has at most 253 bytes. -/
def SubdomainText (s : String) : Prop := Subdomain s.toList ∧ s.utf8ByteSize ≤ 253

/-! ## Characters -/

instance : DecidablePred Letter := fun _ => inferInstanceAs (Decidable (_ ∧ _))

instance : DecidablePred Edge := fun _ => inferInstanceAs (Decidable (_ ∨ _))

instance : DecidablePred Inner := fun _ => inferInstanceAs (Decidable (_ ∨ _))

theorem Letter.edge {c : Char} (h : Letter c) : Edge c :=
  .inl h

theorem Edge.inner {c : Char} (h : Edge c) : Inner c :=
  .inl h

theorem not_letter_hyphen : ¬ Letter '-' := by
  simp [Letter]

/-- No part reaches across a dot. -/
theorem not_inner_dot : ¬ Inner '.' := by
  simp [Inner, Edge, Letter]

/-! ## Bytes

The characters of the languages are single bytes, and a character beyond them has a byte that is
none of theirs, so that a check of all bytes is one of all characters. -/

section bytes

variable {c : Char} {cs : List Char}

/-- The byte of a character that is one. -/
def byteOf (c : Char) : UInt8 := .ofNat c.toNat

theorem letter_iff : Letter c ↔ 97 ≤ c.toNat ∧ c.toNat ≤ 122 := Iff.rfl

theorem edge_iff : Edge c ↔ (97 ≤ c.toNat ∧ c.toNat ≤ 122) ∨ (48 ≤ c.toNat ∧ c.toNat ≤ 57) :=
  Iff.rfl

theorem inner_iff : Inner c ↔ Edge c ∨ c.toNat = 45 := by
  refine or_congr_right ⟨?_, ?_⟩
  · rintro rfl
    rfl
  · intro h
    exact Char.ext (UInt32.toNat_inj.1 h)

theorem Inner.lt (h : Inner c) : c.toNat < 128 := by
  rw [inner_iff, edge_iff] at h
  omega

theorem toNat_byteOf (h : c.toNat < 128) : (byteOf c).toNat = c.toNat := by
  have hlt : c.toNat < UInt8.size := Nat.lt_trans h (by decide)
  exact UInt8.toNat_ofNat_of_lt' hlt

/-- A character of ASCII is written as one byte. -/
theorem utf8EncodeChar_of_lt (h : c.toNat < 128) : String.utf8EncodeChar c = [byteOf c] := by
  have hle : c.val.toNat ≤ 127 := Nat.le_of_lt_succ h
  unfold String.utf8EncodeChar
  rw [if_pos hle]
  rfl

/-- A character of more than one byte ends with a byte above those of characters of one. -/
theorem exists_large_byte (h : 128 ≤ c.toNat) :
    ∃ b ∈ String.utf8EncodeChar c, 128 ≤ b.toNat := by
  have hgt : ¬ c.val.toNat ≤ 127 := Nat.not_le_of_gt h
  refine ⟨.ofNat (c.val.toNat % 64 + 128), ?_, ?_⟩
  · unfold String.utf8EncodeChar
    rw [if_neg hgt]
    split
    · simp
    · split <;> simp
  · have hlt : c.val.toNat % 64 + 128 < UInt8.size := by
      have hsize : 192 ≤ UInt8.size := by decide
      omega
    rw [UInt8.toNat_ofNat_of_lt' hlt]
    exact Nat.le_add_left _ _

theorem isLower_byteOf (h : c.toNat < 128) : isLower (byteOf c) = true ↔ Letter c := by
  simp [isLower, letter_iff, UInt8.le_iff_toNat_le, toNat_byteOf h]

theorem isDigit_byteOf (h : c.toNat < 128) :
    isDigit (byteOf c) = true ↔ 48 ≤ c.toNat ∧ c.toNat ≤ 57 := by
  simp [isDigit, UInt8.le_iff_toNat_le, toNat_byteOf h]

/-- On single bytes the check of a byte is the check of a character. -/
theorem isInner_byteOf (h : c.toNat < 128) : isInner (byteOf c) = true ↔ Inner c := by
  have hhyphen : byteOf c = 45 ↔ c.toNat = 45 := by
    rw [← UInt8.toNat_inj, toNat_byteOf h]
    rfl
  rw [isInner, Bool.or_eq_true, Bool.or_eq_true, isLower_byteOf h, isDigit_byteOf h, beq_iff_eq,
    hhyphen, inner_iff]
  rfl

/-- Of the inner characters, those that are letters of either case or digits are the edges. -/
theorem isAlphanumeric_byteOf (h : Inner c) : isAlphanumeric (byteOf c) = true ↔ Edge c := by
  have hupper : ¬ (65 ≤ byteOf c ∧ byteOf c ≤ 90) := by
    rw [UInt8.le_iff_toNat_le, UInt8.le_iff_toNat_le, toNat_byteOf h.lt]
    rw [inner_iff, edge_iff] at h
    simp only [UInt8.reduceToNat]
    omega
  simp only [isAlphanumeric, Bool.or_eq_true, Bool.and_eq_true, decide_eq_true_eq, hupper, or_false,
    isLower_byteOf h.lt, isDigit_byteOf h.lt]
  rfl

/-- The bytes of a character are those of inner characters exactly if it is one. -/
theorem forall_utf8EncodeChar_iff :
    (∀ b ∈ String.utf8EncodeChar c, isInner b = true) ↔ Inner c := by
  by_cases h : c.toNat < 128
  · rw [utf8EncodeChar_of_lt h, List.forall_mem_singleton, isInner_byteOf h]
  · constructor
    · intro hall
      obtain ⟨b, hb, hlarge⟩ := exists_large_byte (Nat.le_of_not_lt h)
      have hinner := hall b hb
      simp only [isInner, isLower, isDigit, Bool.or_eq_true, Bool.and_eq_true, decide_eq_true_eq,
        beq_iff_eq, UInt8.le_iff_toNat_le, ← UInt8.toNat_inj, UInt8.reduceToNat] at hinner
      omega
    · intro hinner
      exact absurd hinner.lt h

/-- The check of all bytes accepts exactly the texts whose characters are all inner ones. -/
theorem forall_bytesOf_iff : (∀ b ∈ bytesOf cs, isInner b = true) ↔ ∀ c ∈ cs, Inner c := by
  simp only [bytesOf, List.mem_flatMap, ← forall_utf8EncodeChar_iff]
  constructor
  · intro h c hc b hb
    exact h b ⟨c, hc, hb⟩
  · rintro h b ⟨c, hc, hb⟩
    exact h c hc b hb

/-- Inner characters are written as one byte each. -/
theorem bytesOf_of_inner (h : ∀ c ∈ cs, Inner c) : bytesOf cs = cs.map byteOf := by
  induction cs with
  | nil => rfl
  | cons c cs ih =>
    have hc := utf8EncodeChar_of_lt (h c List.mem_cons_self).lt
    have hcs := ih fun d hd => h d (List.mem_cons_of_mem _ hd)
    rw [bytesOf, List.flatMap_cons, hc, List.map_cons]
    exact congrArg (byteOf c :: ·) hcs

end bytes

/-! ## Parts -/

section part

variable {First : Char → Prop} {cs rest : List Char}

/-- A part is known by its first and its last character and by all characters being inner ones. -/
theorem part_iff (hedge : ∀ c, First c → Edge c) :
    Part First cs ↔ ∃ a z, cs.head? = some a ∧ cs.getLast? = some z ∧ First a ∧ Edge z ∧
      ∀ c ∈ cs, Inner c := by
  constructor
  · intro h
    cases h with
    | @one a ha => exact ⟨a, a, rfl, rfl, ha, hedge a ha, by simpa using (hedge a ha).inner⟩
    | @more a z cs ha hcs hz =>
      refine ⟨a, z, rfl, by simp [List.getLast?_cons], ha, hz, ?_⟩
      intro c hc
      simp only [List.mem_cons, List.mem_append, List.not_mem_nil, or_false] at hc
      rcases hc with rfl | hc | rfl
      · exact (hedge c ha).inner
      · exact hcs c hc
      · exact hz.inner
  · rintro ⟨a, z, hhead, hlast, ha, hz, hall⟩
    obtain ⟨tail, rfl⟩ := List.head?_eq_some_iff.1 hhead
    -- one character, or a first and a last one with the inner ones between
    rcases List.eq_nil_or_concat tail with rfl | ⟨cs, b, rfl⟩
    · exact .one ha
    · obtain rfl : b = z := by simpa [List.getLast?_cons] using hlast
      rw [List.concat_eq_append] at hall ⊢
      refine .more ha (fun c hc => hall c ?_) hz
      simp [hc]

theorem Part.inner (h : Part Edge cs) : ∀ c ∈ cs, Inner c := by
  obtain ⟨-, -, -, -, -, -, hall⟩ := (part_iff fun _ => id).1 h
  exact hall

/-- No part holds a dot. -/
theorem Part.not_mem_dot (h : Part Edge cs) : '.' ∉ cs := by
  intro hdot
  exact not_inner_dot (h.inner '.' hdot)

/-- Bytes are checked to be a part exactly if their characters are one, where the class of the first
byte is the one of the first character. -/
theorem isPart_iff {first : UInt8 → Bool}
    (hfirst : ∀ c, Inner c → (first (byteOf c) = true ↔ First c)) (hedge : ∀ c, First c → Edge c) :
    isPart first (bytesOf cs) = true ↔ Part First cs := by
  rw [part_iff hedge]
  simp only [isPart, Bool.and_eq_true, List.all_eq_true, forall_bytesOf_iff]
  constructor
  · rintro ⟨⟨⟨-, hhead⟩, hlast⟩, hall⟩
    -- each character is an inner one, so it has one byte, and the first and last bytes are theirs
    rw [bytesOf_of_inner hall] at hhead hlast
    rw [List.head?_map, Option.any_map, Option.any_eq_true] at hhead
    rw [List.getLast?_map, Option.any_map, Option.any_eq_true] at hlast
    obtain ⟨a, ha, hfirsta⟩ := hhead
    obtain ⟨z, hz, hlastz⟩ := hlast
    exact ⟨a, z, ha, hz, (hfirst a (hall a (List.mem_of_head? ha))).1 hfirsta,
      (isAlphanumeric_byteOf (hall z (List.mem_of_getLast? hz))).1 hlastz, hall⟩
  · rintro ⟨a, z, hhead, hlast, ha, hz, hall⟩
    rw [bytesOf_of_inner hall, List.head?_map, List.getLast?_map, hhead, hlast]
    refine ⟨⟨⟨?_, (hfirst a (hedge a ha).inner).2 ha⟩, (isAlphanumeric_byteOf hz.inner).2 hz⟩, hall⟩
    cases cs with
    | nil => cases hhead
    | cons c cs => rfl

theorem isPart_isLower_iff : isPart isLower (bytesOf cs) = true ↔ Part Letter cs :=
  isPart_iff (fun _ h => isLower_byteOf h.lt) fun _ => Letter.edge

theorem isPart_isAlphanumeric_iff : isPart isAlphanumeric (bytesOf cs) = true ↔ Part Edge cs :=
  isPart_iff (fun _ h => isAlphanumeric_byteOf h) fun _ => id

/-! ## Sequences of parts -/

/-- Characters without a dot are not split. -/
theorem splitDots_of_not_mem (h : '.' ∉ cs) : splitDots cs = [cs] := by
  induction cs with
  | nil => rfl
  | cons c cs ih =>
    have hc : c ≠ '.' := by
      rintro rfl
      exact h List.mem_cons_self
    simp [splitDots, hc, ih (List.not_mem_of_not_mem_cons h)]

/-- The characters in front of the first dot are cut off. -/
theorem splitDots_append (h : '.' ∉ cs) :
    splitDots (cs ++ '.' :: rest) = cs :: splitDots rest := by
  induction cs with
  | nil => simp [splitDots]
  | cons c cs ih =>
    have hc : c ≠ '.' := by
      rintro rfl
      exact h List.mem_cons_self
    simp [splitDots, hc, ih (List.not_mem_of_not_mem_cons h)]

/-- All parts between the dots are accepted exactly if the whole is a subdomain. -/
theorem all_isPart_iff :
    ((splitDots cs).all fun part => isPart isAlphanumeric (bytesOf part)) = true ↔
      Subdomain cs := by
  constructor
  · -- cut off part after part
    induction hlength : cs.length using Nat.strongRecOn generalizing cs with
    | ind n ih =>
      intro h
      by_cases hdot : '.' ∈ cs
      · obtain ⟨first, rest, rfl, hfirst⟩ := List.eq_append_cons_of_mem hdot
        rw [splitDots_append hfirst, List.all_cons, Bool.and_eq_true] at h
        refine .dotted (isPart_isAlphanumeric_iff.1 h.1) (ih rest.length ?_ rfl h.2)
        rw [← hlength, List.length_append, List.length_cons]
        omega
      · rw [splitDots_of_not_mem hdot, List.all_cons, Bool.and_eq_true] at h
        exact .part (isPart_isAlphanumeric_iff.1 h.1)
  · intro h
    induction h with
    | part h =>
      rw [splitDots_of_not_mem h.not_mem_dot, List.all_cons, Bool.and_eq_true]
      exact ⟨isPart_isAlphanumeric_iff.2 h, rfl⟩
    | dotted h hrest ih =>
      rw [splitDots_append h.not_mem_dot, List.all_cons, Bool.and_eq_true]
      exact ⟨isPart_isAlphanumeric_iff.2 h, ih⟩

end part

theorem Part.ne_nil {First : Char → Prop} {cs : List Char} (h : Part First cs) : cs ≠ [] := by
  cases h <;> simp

/-- A subdomain is not empty, so that the check of the empty text takes nothing away. -/
theorem Subdomain.ne_nil {cs : List Char} (h : Subdomain cs) : cs ≠ [] := by
  cases h with
  | part h => exact h.ne_nil
  | dotted h hrest => simp

/-! ## The checks -/

theorem isLabel_iff {s : String} : isLabel s = true ↔ LabelText s := by
  rw [isLabel, Bool.and_eq_true, decide_eq_true_eq, isPart_isLower_iff]
  exact and_comm

/-- A text is accepted as a subdomain exactly if it is one, and not too long. -/
theorem isSubdomain_iff {s : String} : isSubdomain s = true ↔ SubdomainText s := by
  rw [isSubdomain, Bool.and_eq_true, Bool.and_eq_true, decide_eq_true_eq, decide_eq_true_eq,
    all_isPart_iff]
  constructor
  · rintro ⟨⟨-, hsize⟩, hparts⟩
    exact ⟨hparts, hsize⟩
  · rintro ⟨hparts, hsize⟩
    refine ⟨⟨?_, hsize⟩, hparts⟩
    rintro rfl
    exact hparts.ne_nil rfl

/-- **The checks accept the grammars.** Of all texts, the labels are those of the form
`[a-z]([-a-z0-9]*[a-z0-9])?` with at most 63 bytes, and the subdomains those of one part
`[a-z0-9]([-a-z0-9]*[a-z0-9])?` or more, with a dot between each two, that have at most 253 bytes. -/
theorem checks_accept_grammars (s : String) :
    (isLabel s = true ↔ Part Letter s.toList ∧ s.utf8ByteSize ≤ 63) ∧
    (isSubdomain s = true ↔ Subdomain s.toList ∧ s.utf8ByteSize ≤ 253) :=
  ⟨isLabel_iff, isSubdomain_iff⟩

/-- No part is empty, and dots stand between parts only. -/
example : (["a..b", ".a", "a.", "-a", "a-", "A", ""].any isSubdomain) = false := by decide

end InstanceOperator.Dns
