import Planetarium.Text.Utf8

/-! # Texts that are written and read

    What is written as bytes is read back from them, one character after another:
    the bytes of a character lead the machine from one end of a character to the
    next.

    * `start_two`, `start_three`, `start_four`: the bytes that begin a character
      of several bytes.
    * `feed_char`: the bytes of one character.
    * `scan_encode`, `lossy_encode`, `strict?_encode`: the bytes of a text.
    * `mem_utf8EncodeChar_iff`, `mem_encode_iff`: a byte below `0x80` belongs to one
      character. -/

namespace Planetarium.Text.Utf8

/-! ## Section 1: The bytes of a character -/

theorem toNat_byte {k : Nat} (h : k < 256) : (UInt8.ofNat k).toNat = k :=
  UInt8.toNat_ofNat'.trans (Nat.mod_eq_of_lt h)

/-- **The bytes of a character,** by how many there are. -/
theorem utf8EncodeChar_cases (c : Char) :
    (c.toNat < 0x80 ∧ String.utf8EncodeChar c = [UInt8.ofNat c.toNat]) ∨
    (0x80 ≤ c.toNat ∧ c.toNat < 0x800 ∧
      String.utf8EncodeChar c =
        [UInt8.ofNat (c.toNat / 64 + 192), UInt8.ofNat (c.toNat % 64 + 128)]) ∨
    (0x800 ≤ c.toNat ∧ c.toNat < 0x10000 ∧ (c.toNat < 0xd800 ∨ 0xdfff < c.toNat) ∧
      String.utf8EncodeChar c =
        [UInt8.ofNat (c.toNat / 64 / 64 + 224), UInt8.ofNat (c.toNat / 64 % 64 + 128),
          UInt8.ofNat (c.toNat % 64 + 128)]) ∨
    (0x10000 ≤ c.toNat ∧ c.toNat < 0x110000 ∧
      String.utf8EncodeChar c =
        [UInt8.ofNat (c.toNat / 64 / 64 / 64 + 240), UInt8.ofNat (c.toNat / 64 / 64 % 64 + 128),
          UInt8.ofNat (c.toNat / 64 % 64 + 128), UInt8.ofNat (c.toNat % 64 + 128)]) := by
  have hvalid : c.toNat < 0xd800 ∨ 0xdfff < c.toNat ∧ c.toNat < 0x110000 := c.valid
  have hbytes : String.utf8EncodeChar c =
      if c.toNat ≤ 127 then [UInt8.ofNat c.toNat]
      else if c.toNat ≤ 2047 then
        [UInt8.ofNat (c.toNat / 64 % 32 + 192), UInt8.ofNat (c.toNat % 64 + 128)]
      else if c.toNat ≤ 65535 then
        [UInt8.ofNat (c.toNat / 4096 % 16 + 224), UInt8.ofNat (c.toNat / 64 % 64 + 128),
          UInt8.ofNat (c.toNat % 64 + 128)]
      else
        [UInt8.ofNat (c.toNat / 262144 % 8 + 240), UInt8.ofNat (c.toNat / 4096 % 64 + 128),
          UInt8.ofNat (c.toNat / 64 % 64 + 128), UInt8.ofNat (c.toNat % 64 + 128)] := rfl
  rw [hbytes]
  generalize c.toNat = n at hvalid
  by_cases hone : n ≤ 127
  · exact .inl ⟨by omega, if_pos hone⟩
  · by_cases htwo : n ≤ 2047
    · have hlead : n / 64 % 32 = n / 64 := by omega
      refine .inr (.inl ⟨by omega, by omega, ?_⟩)
      rw [if_neg hone, if_pos htwo, hlead]
    · by_cases hthree : n ≤ 65535
      · have hlead : n / 4096 % 16 = n / 64 / 64 := by omega
        refine .inr (.inr (.inl ⟨by omega, by omega, by omega, ?_⟩))
        rw [if_neg hone, if_neg htwo, if_pos hthree, hlead]
      · have hlead : n / 262144 % 8 = n / 64 / 64 / 64 := by omega
        have hsecond : n / 4096 = n / 64 / 64 := by omega
        refine .inr (.inr (.inr ⟨by omega, by omega, ?_⟩))
        rw [if_neg hone, if_neg htwo, if_neg hthree, hlead, hsecond]

namespace Machine
variable {m : Machine} {b : UInt8}

/-- A byte below `0x80` is a character of its own. -/
theorem start_one (h : b.toNat < 0x80) : m.start b = m.emit (some (Char.ofNat b.toNat)) :=
  if_pos (UInt8.lt_iff_toNat_lt.mpr h)

theorem start_two (low : 0xc2 ≤ b.toNat) (high : b.toNat ≤ 0xdf) :
    m.start b = m.await (.expect (b.toNat - 0xc0) 0) := by
  have hlow : ¬ b < 0x80 := fun h => by
    have : b.toNat < 0x80 := UInt8.lt_iff_toNat_lt.mp h
    omega
  have hrange : (0xc2 ≤ b && b ≤ 0xdf) = true := by
    simp [UInt8.le_iff_toNat_le, low, high]
  unfold start
  rw [if_neg hlow, if_pos hrange]

/-- The second byte leaves out what has a shorter form, and the surrogates. -/
theorem start_three (low : 0xe0 ≤ b.toNat) (high : b.toNat ≤ 0xef) :
    m.start b = m.await ⟨b.toNat - 0xe0, 1, if b.toNat = 0xe0 then 0xa0 else 0x80,
      if b.toNat = 0xed then 0x9f else 0xbf⟩ := by
  unfold start
  simp only [UInt8.lt_iff_toNat_lt, UInt8.le_iff_toNat_le, ← UInt8.toNat_inj, Bool.and_eq_true,
    decide_eq_true_eq, UInt8.reduceToNat]
  rw [if_neg (by omega), if_neg (by omega)]
  by_cases hfirst : b.toNat = 0xe0
  · simp [hfirst]
  · by_cases hsurrogate : b.toNat = 0xed
    · simp [hsurrogate]
    · rw [if_neg hfirst, if_neg hsurrogate, if_pos (by omega), if_neg hfirst, if_neg hsurrogate]
      rfl

/-- The second byte leaves out what has a shorter form, and what is no character any
    more. -/
theorem start_four (low : 0xf0 ≤ b.toNat) (high : b.toNat ≤ 0xf4) :
    m.start b = m.await ⟨b.toNat - 0xf0, 2, if b.toNat = 0xf0 then 0x90 else 0x80,
      if b.toNat = 0xf4 then 0x8f else 0xbf⟩ := by
  unfold start
  simp only [UInt8.lt_iff_toNat_lt, UInt8.le_iff_toNat_le, ← UInt8.toNat_inj, Bool.and_eq_true,
    decide_eq_true_eq, UInt8.reduceToNat]
  rw [if_neg (by omega), if_neg (by omega), if_neg (by omega), if_neg (by omega), if_neg (by omega)]
  by_cases hfirst : b.toNat = 0xf0
  · simp [hfirst]
  · by_cases hlast : b.toNat = 0xf4
    · simp [hlast]
    · rw [if_neg hfirst, if_pos (by omega), if_neg hfirst, if_neg hlast]
      rfl

/-- A byte in the range that is awaited goes on with the character. -/
theorem feed_await {bits more k : Nat} {low high : UInt8} (hk : k < 64)
    (hlow : low.toNat ≤ k + 128) (hhigh : k + 128 ≤ high.toNat) :
    (m.await ⟨bits, more, low, high⟩).feed (UInt8.ofNat (k + 128)) =
      match more with
      | 0 => m.emit (some (Char.ofNat (bits * 64 + k)))
      | more + 1 => m.await (.expect (bits * 64 + k) more) := by
  have hbyte : (UInt8.ofNat (k + 128)).toNat = k + 128 := toNat_byte (by omega)
  have hrange : (low ≤ UInt8.ofNat (k + 128) && UInt8.ofNat (k + 128) ≤ high) = true := by
    simp only [UInt8.le_iff_toNat_le, hbyte, hlow, hhigh, decide_true, Bool.and_self]
  unfold feed await
  simp only [hrange, if_true, hbyte, Nat.add_sub_cancel]
  cases more <;> rfl

/-- Nothing narrows the range from the third byte on. -/
theorem feed_expect {bits more k : Nat} (hk : k < 64) :
    (m.await (.expect bits more)).feed (UInt8.ofNat (k + 128)) =
      match more with
      | 0 => m.emit (some (Char.ofNat (bits * 64 + k)))
      | more + 1 => m.await (.expect (bits * 64 + k) more) :=
  feed_await hk (Nat.le_add_left _ _) (by show _ ≤ 191; omega)

theorem feed_two {n : Nat} (low : 0x80 ≤ n) (high : n < 0x800) :
    (m.start (UInt8.ofNat (n / 64 + 192))).feed (UInt8.ofNat (n % 64 + 128)) =
      m.emit (some (Char.ofNat n)) := by
  have hbyte : (UInt8.ofNat (n / 64 + 192)).toNat = n / 64 + 192 := toNat_byte (by omega)
  rw [start_two (by omega) (by omega), hbyte, Nat.add_sub_cancel,
    feed_expect (Nat.mod_lt _ (by decide)), Nat.div_add_mod']

/-- The range of the second byte has room for all characters of three bytes. -/
theorem feed_three {n : Nat} (low : 0x800 ≤ n) (high : n < 0x10000)
    (valid : n < 0xd800 ∨ 0xdfff < n) :
    ((m.start (UInt8.ofNat (n / 64 / 64 + 224))).feed (UInt8.ofNat (n / 64 % 64 + 128))).feed
      (UInt8.ofNat (n % 64 + 128)) = m.emit (some (Char.ofNat n)) := by
  have hbyte : (UInt8.ofNat (n / 64 / 64 + 224)).toNat = n / 64 / 64 + 224 :=
    toNat_byte (by omega)
  have hlow : (if n / 64 / 64 + 224 = 0xe0 then 0xa0 else 0x80 : UInt8).toNat ≤
      n / 64 % 64 + 128 := by
    split
    · show 160 ≤ _
      omega
    · exact Nat.le_add_left _ _
  have hhigh : n / 64 % 64 + 128 ≤
      (if n / 64 / 64 + 224 = 0xed then 0x9f else 0xbf : UInt8).toNat := by
    split
    · show _ ≤ 159
      omega
    · show _ ≤ 191
      omega
  rw [start_three (by omega) (by omega), hbyte, Nat.add_sub_cancel,
    feed_await (Nat.mod_lt _ (by decide)) hlow hhigh]
  dsimp only
  rw [feed_expect (Nat.mod_lt _ (by decide)), Nat.div_add_mod']
  dsimp only
  rw [Nat.div_add_mod']

/-- So it has for all characters of four bytes. -/
theorem feed_four {n : Nat} (low : 0x10000 ≤ n) (high : n < 0x110000) :
    (((m.start (UInt8.ofNat (n / 64 / 64 / 64 + 240))).feed
      (UInt8.ofNat (n / 64 / 64 % 64 + 128))).feed (UInt8.ofNat (n / 64 % 64 + 128))).feed
      (UInt8.ofNat (n % 64 + 128)) = m.emit (some (Char.ofNat n)) := by
  have hbyte : (UInt8.ofNat (n / 64 / 64 / 64 + 240)).toNat = n / 64 / 64 / 64 + 240 :=
    toNat_byte (by omega)
  have hlow : (if n / 64 / 64 / 64 + 240 = 0xf0 then 0x90 else 0x80 : UInt8).toNat ≤
      n / 64 / 64 % 64 + 128 := by
    split
    · show 144 ≤ _
      omega
    · exact Nat.le_add_left _ _
  have hhigh : n / 64 / 64 % 64 + 128 ≤
      (if n / 64 / 64 / 64 + 240 = 0xf4 then 0x8f else 0xbf : UInt8).toNat := by
    split
    · show _ ≤ 143
      omega
    · show _ ≤ 191
      omega
  rw [start_four (by omega) (by omega), hbyte, Nat.add_sub_cancel,
    feed_await (Nat.mod_lt _ (by decide)) hlow hhigh]
  dsimp only
  rw [feed_expect (Nat.mod_lt _ (by decide)), Nat.div_add_mod']
  dsimp only
  rw [feed_expect (Nat.mod_lt _ (by decide)), Nat.div_add_mod']
  dsimp only
  rw [Nat.div_add_mod']

/-- **The bytes of a character** are read as that character. -/
theorem feed_char (idle : m.pending = none) (c : Char) :
    (String.utf8EncodeChar c).foldl feed m = m.emit (some c) := by
  have hidle : ∀ b, m.feed b = m.start b := by
    intro b
    unfold feed
    rw [idle]
  have hchar : Char.ofNat c.toNat = c := Char.ofNat_toNat c
  rcases utf8EncodeChar_cases c with ⟨hlt, hbytes⟩ | ⟨hge, hlt, hbytes⟩ |
    ⟨hge, hlt, hvalid, hbytes⟩ | ⟨hge, hlt, hbytes⟩
  all_goals rw [hbytes]; simp only [List.foldl_cons, List.foldl_nil, hidle]
  · have hbyte : (UInt8.ofNat c.toNat).toNat = c.toNat := toNat_byte (by omega)
    rw [start_one (by omega), hbyte, hchar]
  · rw [feed_two hge hlt, hchar]
  · rw [feed_three hge hlt hvalid, hchar]
  · rw [feed_four hge hlt, hchar]

end Machine

/-! ## Section 2: The bytes of a text -/

theorem encode_append (cs ds : List Char) : encode (cs ++ ds) = encode cs ++ encode ds :=
  List.flatMap_append

theorem encode_eq_nil_iff {cs : List Char} : encode cs = [] ↔ cs = [] := by
  cases cs <;> simp [encode]

/-- The machine comes from the end of a character to the end of another one. -/
theorem Machine.feed_text {m : Machine} (idle : m.pending = none) (cs : List Char) :
    (encode cs).foldl Machine.feed m =
      { yielded := (cs.map some).reverse ++ m.yielded, pending := none } := by
  induction cs generalizing m with
  | nil =>
    obtain ⟨yielded, pending⟩ := m
    obtain rfl : pending = none := idle
    rfl
  | cons c cs ih =>
    have hencode : encode (c :: cs) = String.utf8EncodeChar c ++ encode cs := List.flatMap_cons
    rw [hencode, List.foldl_append, feed_char idle, ih rfl]
    simp [Machine.emit]

/-- **The bytes of a text are read as its characters.** -/
theorem scan_encode (cs : List Char) : scan (encode cs) = cs.map some := by
  unfold scan
  rw [Machine.feed_text rfl]
  simp [Machine.finish]

theorem lossy_encode (cs : List Char) : lossy (encode cs) = cs := by
  unfold lossy
  rw [scan_encode, List.map_map]
  exact List.map_id cs

theorem strict?_encode (cs : List Char) : strict? (encode cs) = some cs := by
  unfold strict?
  rw [scan_encode]
  simp [List.filterMap_map]

/-- Different texts have different bytes. -/
theorem encode_injective {cs ds : List Char} (h : encode cs = encode ds) : cs = ds :=
  Option.some.inj ((strict?_encode cs).symm.trans ((congrArg strict? h).trans (strict?_encode ds)))

/-! ## Section 3: Bytes that are characters -/

/-- **A byte below `0x80`** is only found in the bytes of its own character. -/
theorem toNat_eq_of_mem {c : Char} {b : UInt8} (hmem : b ∈ String.utf8EncodeChar c)
    (hlt : b.toNat < 0x80) : c.toNat = b.toNat := by
  rcases utf8EncodeChar_cases c with ⟨h, hbytes⟩ | ⟨_, _, hbytes⟩ | ⟨_, _, _, hbytes⟩ |
    ⟨_, _, hbytes⟩
  · have hb : b = UInt8.ofNat c.toNat := by simpa [hbytes] using hmem
    rw [hb, toNat_byte (by omega)]
  all_goals
    -- All bytes of a longer character are above.
    exfalso
    have hbig : ∀ {k : Nat}, 128 ≤ k → k < 256 → b ≠ UInt8.ofNat k := by
      intro k hge hk heq
      have hbyte := congrArg UInt8.toNat heq
      rw [toNat_byte hk] at hbyte
      omega
    simp only [hbytes, List.mem_cons, List.not_mem_nil, or_false] at hmem
  · rcases hmem with heq | heq <;> exact hbig (by omega) (by omega) heq
  · rcases hmem with heq | heq | heq <;> exact hbig (by omega) (by omega) heq
  · rcases hmem with heq | heq | heq | heq <;> exact hbig (by omega) (by omega) heq

/-- The byte of a character below `0x80`. -/
def asciiByte (c : Char) : UInt8 := UInt8.ofNat c.toNat

theorem utf8EncodeChar_ascii {c : Char} (ascii : c.toNat < 0x80) :
    String.utf8EncodeChar c = [asciiByte c] := by
  rcases utf8EncodeChar_cases c with ⟨_, hbytes⟩ | ⟨_, _, _⟩ | ⟨_, _, _, _⟩ | ⟨_, _, _⟩
  · exact hbytes
  all_goals omega

/-- **The byte of a character below `0x80`** belongs to no other character. -/
theorem mem_utf8EncodeChar_iff {c d : Char} (ascii : c.toNat < 0x80) :
    asciiByte c ∈ String.utf8EncodeChar d ↔ d = c := by
  have hbyte : (asciiByte c).toNat = c.toNat := toNat_byte (by omega)
  constructor
  · intro hmem
    exact Char.toNat_inj.mp ((toNat_eq_of_mem hmem (by omega)).trans hbyte)
  · rintro rfl
    rw [utf8EncodeChar_ascii ascii]
    exact List.mem_singleton_self _

/-- It stands in the bytes of a text exactly where the character is in the text. -/
theorem mem_encode_iff {c : Char} (ascii : c.toNat < 0x80) {cs : List Char} :
    asciiByte c ∈ encode cs ↔ c ∈ cs := by
  unfold encode
  simp only [List.mem_flatMap, mem_utf8EncodeChar_iff ascii, exists_eq_right]

end Planetarium.Text.Utf8
