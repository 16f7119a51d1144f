import LayeredConfig.Text.Utf8

/-!
# UTF-8 — texts, their bytes and pieces of them

A text is read back from its bytes (`decode?_encode`). Bytes that are a text are the same text when they
are decoded piece by piece, wherever the pieces end (`decodePieces_of_decode?`).
-/

namespace LayeredConfig.Utf8

/-! ## 1. The character at the front -/

section Head

variable {first : UInt8} {rest : List UInt8} {c : Char} {size : Nat}

/-- Whether the bytes behind a first one can go on with its character. -/
def followingFits (first : UInt8) : List UInt8 → Bool
  | [] => true
  | second :: others => secondFits first second && others.all isContinuation

theorem head_of_sizeOf? (h : sizeOf? first = some size) (rest : List UInt8) :
    head first rest =
      if !followingFits first (rest.take (size - 1)) then .invalid
      else if (rest.take (size - 1)).length < size - 1 then .incomplete
      else .char (assemble size first (rest.take (size - 1))) size := by
  unfold head
  rw [h]
  rfl

/-- A whole character reads the same with any bytes behind it. -/
theorem head_append_of_char (h : head first rest = .char c size) (more : List UInt8) :
    size - 1 ≤ rest.length ∧ head first (rest ++ more) = .char c size := by
  cases hsize : sizeOf? first with
  | none => simp [head, hsize] at h
  | some size' =>
    rw [head_of_sizeOf? hsize] at h
    split at h
    next => contradiction
    next hfits =>
      split at h
      next => contradiction
      next hlength =>
        obtain ⟨rfl, rfl⟩ := Head.char.inj h
        have hle : size' - 1 ≤ rest.length := by
          rw [List.length_take] at hlength
          omega
        refine ⟨hle, ?_⟩
        rw [head_of_sizeOf? hsize, List.take_append_of_le_length hle, if_neg hfits, if_neg hlength]

theorem followingFits_of_append {following more : List UInt8}
    (h : followingFits first (following ++ more) = true) : followingFits first following = true := by
  cases following with
  | nil => rfl
  | cons second others =>
    simp only [followingFits, List.cons_append, List.all_append, Bool.and_eq_true] at h ⊢
    exact ⟨h.1, h.2.1⟩

theorem head_append_of_invalid (h : head first rest = .invalid) (more : List UInt8) :
    head first (rest ++ more) = .invalid := by
  cases hsize : sizeOf? first with
  | none => simp [head, hsize]
  | some size =>
    rw [head_of_sizeOf? hsize] at h ⊢
    split at h
    next hfits =>
      -- More bytes would have to fit behind those that do not.
      rw [if_pos]
      rw [Bool.not_eq_true'] at hfits ⊢
      rw [List.take_append, Bool.eq_false_iff]
      intro hall
      exact absurd (followingFits_of_append hall) (by simp [hfits])
    next =>
      split at h
      next => contradiction
      next => contradiction

end Head

/-! ## 2. What is left of a piece -/

/-- The bytes at the end that may begin a character. -/
def Ending.left : Ending → List UInt8
  | .incomplete bytes => bytes
  | _ => []

theorem decode_cons_of_char {first : UInt8} {rest : List UInt8} {c : Char} {size : Nat}
    (h : head first rest = .char c size) :
    decode (first :: rest) =
      (c :: (decode (rest.drop (size - 1))).1, (decode (rest.drop (size - 1))).2) := by
  rw [decode]
  simp only [h]

theorem decode_cons_of_invalid {first : UInt8} {rest : List UInt8} (h : head first rest = .invalid) :
    decode (first :: rest) = ([], .invalid) := by
  rw [decode]
  simp only [h]

theorem decode_cons_of_incomplete {first : UInt8} {rest : List UInt8}
    (h : head first rest = .incomplete) :
    decode (first :: rest) = ([], .incomplete (first :: rest)) := by
  rw [decode]
  simp only [h]

theorem decode_nil : decode [] = ([], .clean) := by
  rw [decode]

/-- Bytes that begin a text leave of it what stands in their last character and behind them. -/
theorem decode_append {bytes : List UInt8} (h : (decode bytes).2 ≠ .invalid) (more : List UInt8) :
    decode (bytes ++ more) =
      ((decode bytes).1 ++ (decode ((decode bytes).2.left ++ more)).1,
        (decode ((decode bytes).2.left ++ more)).2) := by
  induction bytes using decode.induct with
  | case1 => simp [decode_nil, Ending.left]
  | case2 first rest hhead => simp [decode_cons_of_invalid hhead] at h
  | case3 first rest hhead =>
    simp [decode_cons_of_incomplete hhead, Ending.left]
  | case4 first rest c size hhead _ _ _ ih =>
    obtain ⟨hle, hmore⟩ := head_append_of_char hhead more
    rw [decode_cons_of_char hhead] at h ⊢
    rw [List.cons_append, decode_cons_of_char hmore, List.drop_append_of_le_length hle, ih h]
    rfl

theorem decode_append_of_invalid {bytes : List UInt8} (h : (decode bytes).2 = .invalid)
    (more : List UInt8) : (decode (bytes ++ more)).2 = .invalid := by
  induction bytes using decode.induct with
  | case1 => simp [decode_nil] at h
  | case2 first rest hhead =>
    rw [List.cons_append, decode_cons_of_invalid (head_append_of_invalid hhead more)]
  | case3 first rest hhead => simp [decode_cons_of_incomplete hhead] at h
  | case4 first rest c size hhead _ _ _ ih =>
    obtain ⟨hle, hmore⟩ := head_append_of_char hhead more
    rw [decode_cons_of_char hhead] at h
    rw [List.cons_append, decode_cons_of_char hmore, List.drop_append_of_le_length hle]
    exact ih h

/-- What is left of some bytes is left of itself. -/
theorem decode_left (bytes : List UInt8) :
    (decode (decode bytes).2.left).2.left = (decode bytes).2.left := by
  induction bytes using decode.induct with
  | case1 => simp [decode_nil, Ending.left]
  | case2 first rest hhead => simp [decode_cons_of_invalid hhead, Ending.left, decode_nil]
  | case3 first rest hhead => simp [decode_cons_of_incomplete hhead, Ending.left]
  | case4 first rest c size hhead _ _ _ ih =>
    rw [decode_cons_of_char hhead]
    exact ih

theorem decode?_eq_some_iff {bytes : List UInt8} {cs : List Char} :
    decode? bytes = some cs ↔ decode bytes = (cs, .clean) := by
  unfold decode?
  split
  next h => simp [h]
  next h =>
    constructor
    · exact nofun
    · exact fun hclean => absurd hclean (h cs)

/-! ## 3. Pieces -/

theorem decodePieces_cons {size : Nat} {pending : List UInt8} {first : UInt8} {rest : List UInt8}
    (h : (decode (pending ++ (first :: rest).take (size + 1))).2 ≠ .invalid) :
    decodePieces size pending (first :: rest) =
      let read := decode (pending ++ (first :: rest).take (size + 1))
      let others := decodePieces size read.2.left (rest.drop size)
      (read.1 ++ others.1, others.2) := by
  rw [decodePieces]
  split
  next hinvalid => exact absurd (congrArg Prod.snd hinvalid) h
  next hread =>
    dsimp only
    rw [hread]
    rfl

/-- What is pending when a piece comes is what was left of the one before. -/
theorem decodePieces_eq {size : Nat} {pending bytes : List UInt8} {cs : List Char}
    (hpending : (decode pending).2.left = pending) (h : decode (pending ++ bytes) = (cs, .clean)) :
    decodePieces size pending bytes = (cs, true) := by
  match bytes with
  | [] =>
    rw [List.append_nil] at h
    rw [h] at hpending
    obtain rfl : [] = pending := hpending
    obtain rfl : [] = cs := congrArg Prod.fst (decode_nil.symm.trans h)
    rw [decodePieces]
    rfl
  | first :: rest =>
    have hsplit : pending ++ first :: rest =
        (pending ++ (first :: rest).take (size + 1)) ++ rest.drop size := by
      rw [List.append_assoc, ← List.drop_succ_cons, List.take_append_drop]
    rw [hsplit] at h
    have hvalid : (decode (pending ++ (first :: rest).take (size + 1))).2 ≠ .invalid := by
      intro hinvalid
      have hwhole := decode_append_of_invalid hinvalid (rest.drop size)
      rw [h] at hwhole
      contradiction
    rw [decode_append hvalid] at h
    obtain ⟨hchars, hclean⟩ := Prod.mk.inj h
    have hothers := @decodePieces_eq size _ (rest.drop size) _ (decode_left _) (Prod.ext rfl hclean)
    rw [decodePieces_cons hvalid]
    dsimp only
    rw [hothers, ← hchars]
termination_by bytes.length
decreasing_by simp only [List.length_drop, List.length_cons]; omega

theorem decodePieces_of_decode? {bytes : List UInt8} {cs : List Char} (h : decode? bytes = some cs)
    (size : Nat) : decodePieces size [] bytes = (cs, true) := by
  have hleft : (decode []).2.left = [] := by
    rw [decode_nil]
    rfl
  exact decodePieces_eq hleft (decode?_eq_some_iff.1 h)

/-! ## 4. Bytes of texts -/

theorem head_eq_char {first : UInt8} {following : List UInt8} {c : Char} {size : Nat}
    (hsize : sizeOf? first = some size) (hlength : following.length = size - 1)
    (hfits : followingFits first following = true)
    (hbits : following.foldl (fun n b => n * 64 + (b.toNat - 0x80)) (leadBits size first) = c.toNat)
    (rest : List UInt8) : head first (following ++ rest) = .char c size := by
  rw [head_of_sizeOf? hsize, ← hlength, List.take_left, hfits, if_neg (by decide),
    if_neg (Nat.lt_irrefl _), assemble, hbits, Char.ofNat_toNat]

theorem secondFits_iff {first second : UInt8} :
    secondFits first second = true ↔
      (0x80 ≤ second.toNat ∧ second.toNat < 0xC0) ∧
        (first.toNat = 0xE0 → 0xA0 ≤ second.toNat) ∧ (first.toNat = 0xED → second.toNat < 0xA0) ∧
        (first.toNat = 0xF0 → 0x90 ≤ second.toNat) ∧ (first.toNat = 0xF4 → second.toNat < 0x90) := by
  simp only [secondFits, isContinuation, Bool.and_eq_true, Bool.not_eq_true', Bool.and_eq_false_iff,
    decide_eq_true_eq, decide_eq_false_iff_not, ← UInt8.toNat_inj, UInt8.lt_iff_toNat_lt,
    UInt8.le_iff_toNat_le, UInt8.reduceToNat]
  omega

theorem isContinuation_of_toNat {b : UInt8} {bits : Nat} (h : b.toNat = 0x80 + bits % 64) :
    isContinuation b = true := by
  rw [isContinuation, h]
  simp only [Bool.and_eq_true, decide_eq_true_eq]
  omega

section Sizes

variable {c : Char} {b₁ b₂ b₃ b₄ : UInt8}

theorem leadBits_two (first : UInt8) : leadBits 2 first = first.toNat - 0xC0 := rfl

theorem leadBits_three (first : UInt8) : leadBits 3 first = first.toNat - 0xE0 := rfl

theorem leadBits_four (first : UInt8) : leadBits 4 first = first.toNat - 0xF0 := rfl

theorem head_one (h₁ : b₁.toNat = c.toNat) (hc : c.toNat < 0x80) (rest : List UInt8) :
    head b₁ rest = .char c 1 := by
  apply @head_eq_char _ [] _ 1
  · rw [sizeOf?, h₁]
    exact if_pos hc
  · rfl
  · rfl
  · exact h₁

theorem head_two (h₁ : b₁.toNat = 0xC0 + c.toNat / 64) (h₂ : b₂.toNat = 0x80 + c.toNat % 64)
    (hlower : 0x80 ≤ c.toNat) (hupper : c.toNat < 0x800) (rest : List UInt8) :
    head b₁ ([b₂] ++ rest) = .char c 2 := by
  apply head_eq_char
  · simp only [sizeOf?, h₁]
    rw [if_neg (by omega), if_neg (by omega), if_pos (by omega)]
  · rfl
  · rw [followingFits, secondFits_iff.2 (by omega)]
    rfl
  · simp only [List.foldl_cons, List.foldl_nil, leadBits_two]
    omega

theorem head_three (h₁ : b₁.toNat = 0xE0 + c.toNat / 4096)
    (h₂ : b₂.toNat = 0x80 + c.toNat / 64 % 64) (h₃ : b₃.toNat = 0x80 + c.toNat % 64)
    (hlower : 0x800 ≤ c.toNat) (hupper : c.toNat < 0x10000) (rest : List UInt8) :
    head b₁ ([b₂, b₃] ++ rest) = .char c 3 := by
  -- Surrogates are no characters.
  have hvalid : c.toNat < 0xD800 ∨ 0xDFFF < c.toNat ∧ c.toNat < 0x110000 := c.valid
  apply head_eq_char
  · simp only [sizeOf?, h₁]
    rw [if_neg (by omega), if_neg (by omega), if_neg (by omega), if_pos (by omega)]
  · rfl
  · rw [followingFits, secondFits_iff.2 (by omega), List.all_cons, isContinuation_of_toNat h₃]
    rfl
  · simp only [List.foldl_cons, List.foldl_nil, leadBits_three]
    omega

theorem head_four (h₁ : b₁.toNat = 0xF0 + c.toNat / 262144)
    (h₂ : b₂.toNat = 0x80 + c.toNat / 4096 % 64) (h₃ : b₃.toNat = 0x80 + c.toNat / 64 % 64)
    (h₄ : b₄.toNat = 0x80 + c.toNat % 64) (hlower : 0x10000 ≤ c.toNat) (rest : List UInt8) :
    head b₁ ([b₂, b₃, b₄] ++ rest) = .char c 4 := by
  have hvalid : c.toNat < 0xD800 ∨ 0xDFFF < c.toNat ∧ c.toNat < 0x110000 := c.valid
  apply head_eq_char
  · simp only [sizeOf?, h₁]
    rw [if_neg (by omega), if_neg (by omega), if_neg (by omega), if_neg (by omega),
      if_pos (by omega)]
  · rfl
  · rw [followingFits, secondFits_iff.2 (by omega), List.all_cons, List.all_cons,
      isContinuation_of_toNat h₃, isContinuation_of_toNat h₄]
    rfl
  · simp only [List.foldl_cons, List.foldl_nil, leadBits_four]
    omega

end Sizes

/-- The bytes of a character are read as that character. -/
theorem head_encodeChar (c : Char) :
    ∃ first following, encodeChar c = first :: following ∧
      ∀ rest, head first (following ++ rest) = .char c (following.length + 1) := by
  have hlast : c.toNat < 0xD800 ∨ 0xDFFF < c.toNat ∧ c.toNat < 0x110000 := c.valid
  have hbyte {n : Nat} (h : n < 256) : (UInt8.ofNat n).toNat = n := UInt8.toNat_ofNat_of_lt' h
  have htail (weight : Nat) : (UInt8.ofNat (0x80 + c.toNat / weight % 64)).toNat =
      0x80 + c.toNat / weight % 64 := hbyte (by omega)
  have hend := htail 1
  rw [Nat.div_one] at hend
  unfold encodeChar
  dsimp only
  rw [Nat.div_one]
  split
  next h => exact ⟨_, [], rfl, head_one (hbyte (by omega)) h⟩
  next hlower =>
    split
    next h => exact ⟨_, _, rfl, head_two (hbyte (by omega)) hend (by omega) h⟩
    next hlower =>
      split
      next h => exact ⟨_, _, rfl, head_three (hbyte (by omega)) (htail 64) hend (by omega) h⟩
      next hlower =>
        exact ⟨_, _, rfl, head_four (hbyte (by omega)) (htail 4096) (htail 64) hend (by omega)⟩

theorem decode_encode (cs : List Char) : decode (encode cs) = (cs, .clean) := by
  induction cs with
  | nil => exact decode_nil
  | cons c cs ih =>
    obtain ⟨first, following, hbytes, hhead⟩ := head_encodeChar c
    rw [encode, List.flatMap_cons, hbytes, List.cons_append, decode_cons_of_char (hhead _),
      Nat.add_sub_cancel, List.drop_left]
    rw [encode] at ih
    rw [ih]

theorem decode?_encode (cs : List Char) : decode? (encode cs) = some cs :=
  decode?_eq_some_iff.2 (decode_encode cs)

end LayeredConfig.Utf8
