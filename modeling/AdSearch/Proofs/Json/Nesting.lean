import AdSearch.Json.Reader

/-!
# Texts that are nested too deep

A text that opens more arrays in one another than there is room for cannot be read, whatever comes
after them.
-/

namespace AdSearch.Proofs.Json.Nesting

open AdSearch.Json AdSearch.Text

/-! ## Octets of ASCII -/

/-- An octet of ASCII other than zero. -/
def IsAscii (b : Nat) : Prop := 0 < b ∧ b < 0x80

theorem utf8?_of_ascii {bs : List Nat} (h : ∀ b ∈ bs, IsAscii b) : utf8? bs = some bs := by
  rw [utf8?]
  induction bs with
  | nil => rfl
  | cons b bs ih =>
    rw [List.forall_mem_cons] at h
    have hopen : utf8Open true b = .inl (some b) := by rw [utf8Open, if_pos h.1.2]
    rw [utf8Points, hopen]
    dsimp only
    rw [allSome, ih h.2]
    rfl

/-- Without zeros and byte order marks the encoding is UTF-8. -/
theorem decodePoints?_of_ascii {bs : List Nat} (h : ∀ b ∈ bs, IsAscii b) :
    decodePoints? bs = some bs := by
  unfold decodePoints?
  split <;> first
    | exact utf8?_of_ascii h
    | simp [IsAscii] at h

/-! ## Arrays in one another -/

/-- The octet that opens an array. -/
def bracket : Nat := 0x5B

theorem value_of_brackets {n room fuel : Nat} (hroom : room < n) (hfuel : 2 * n ≤ fuel)
    (cs : List Nat) : value fuel room (List.replicate n bracket ++ cs) = .error .tooDeep := by
  induction n generalizing room fuel with
  | zero => exact absurd hroom (Nat.not_lt_zero room)
  | succ n ih =>
    obtain ⟨fuel, rfl⟩ : ∃ rest, fuel = rest + 2 := ⟨fuel - 2, by omega⟩
    cases room with
    | zero => rfl
    | succ room =>
      obtain ⟨n, rfl⟩ : ∃ rest, n = rest + 1 := ⟨n - 1, by omega⟩
      have hinner := ih (Nat.lt_of_succ_lt_succ hroom) (by omega : 2 * (n + 1) ≤ fuel)
      change items (fuel + 1) room [] (List.replicate (n + 1) bracket ++ cs) = _
      rw [items, hinner]
      rfl

theorem readPoints_of_brackets {n room : Nat} (hroom : room < n) (cs : List Nat) :
    readPoints room (List.replicate n bracket ++ cs) = .error .tooDeep := by
  have hfuel : 2 * n ≤ 2 * (List.replicate n bracket ++ cs).length + 2 := by
    rw [List.length_append, List.length_replicate]
    omega
  have hvalue := value_of_brackets hroom hfuel cs
  obtain ⟨n, rfl⟩ : ∃ rest, n = rest + 1 := ⟨n - 1, by omega⟩
  change (value _ room (List.replicate (n + 1) bracket ++ cs) >>= _) = _
  rw [hvalue]
  rfl

theorem decode_of_brackets {n room : Nat} (hroom : room < n) {cs : List Nat}
    (hcs : ∀ b ∈ cs, IsAscii b) :
    decode room (List.replicate n bracket ++ cs) = .error .tooDeep := by
  have hascii : ∀ b ∈ List.replicate n bracket ++ cs, IsAscii b := by
    rw [List.forall_mem_append]
    refine ⟨?_, hcs⟩
    intro b hb
    rw [List.eq_of_mem_replicate hb]
    exact ⟨by decide, by decide⟩
  rw [decode, decodePoints?_of_ascii hascii]
  dsimp only
  rw [readPoints_of_brackets hroom cs]

end AdSearch.Proofs.Json.Nesting
