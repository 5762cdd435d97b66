import CertEnroll.Proofs.Armour

namespace CertEnroll.Text.Base64

theorem eq_symbol {b : UInt8} {v : Nat} (hv : value? b = some v) : v < 64 ∧ b = symbol v := by
  have hall : ∀ n < 256, (value? (UInt8.ofNat n)).all (fun v => v < 64 ∧ UInt8.ofNat n = symbol v) = true := by
    decide +kernel
  have hb := hall b.toNat b.toNat_lt
  rw [UInt8.ofNat_toNat, hv, Option.all_some, decide_eq_true_eq] at hb
  exact hb

theorem symbol_ne_pad {v : Nat} (hv : v < 64) : symbol v ≠ padOctet := by
  intro he
  have hvalue := value_symbol v hv
  rw [he, value_pad] at hvalue
  cases hvalue

theorem lastValues_symbols (offset : Nat) {vs : List Nat} (hv : ∀ v ∈ vs, v < 64) (rest : List UInt8)
    (found : List Nat) :
    lastValues offset (vs.map symbol ++ rest) found 0 = lastValues offset rest (vs.reverse ++ found) 0 := by
  induction vs generalizing found with
  | nil => rfl
  | cons v vs ih =>
    rw [List.forall_mem_cons] at hv
    rw [List.map_cons, List.cons_append, lastValues, if_neg (symbol_ne_pad hv.1), if_neg (Nat.lt_irrefl 0),
      value_symbol v hv.1]
    dsimp only
    rw [ih hv.2, List.reverse_cons, List.append_assoc, List.singleton_append]

theorem lastValues_pads (offset k : Nat) {found : List Nat} {pads : Nat} (h : k = 0 ∨ 2 ≤ found.length + pads) :
    lastValues offset (List.replicate k padOctet) found pads = .ok (found.reverse, pads + k) := by
  induction k generalizing pads with
  | zero => rfl
  | succ k ih =>
    have henough : 2 ≤ found.length + pads := h.resolve_left (Nat.succ_ne_zero k)
    rw [List.replicate_succ, lastValues, if_pos rfl, if_neg (Nat.not_lt.mpr henough), ih (.inr (by omega)),
      Nat.add_right_comm, Nat.add_assoc]

theorem lastValues_group (offset : Nat) {vs : List Nat} {k : Nat} (hv : ∀ v ∈ vs, v < 64)
    (h : k = 0 ∨ 2 ≤ vs.length) :
    lastValues offset (vs.map symbol ++ List.replicate k padOctet) [] 0 = .ok (vs, k) := by
  rw [lastValues_symbols offset hv, List.append_nil, lastValues_pads, List.reverse_reverse, Nat.zero_add]
  rwa [List.length_reverse, Nat.add_zero]

theorem eq_of_lastValues {offset : Nat} {group : List UInt8} {found values : List Nat} {pads total : Nat}
    (h : lastValues offset group found pads = .ok (values, total)) :
    ∃ vs k, group = vs.map symbol ++ List.replicate k padOctet ∧ values = found.reverse ++ vs ∧ total = pads + k ∧
      (∀ v ∈ vs, v < 64) ∧ (0 < pads → vs = []) ∧ (0 < k → 2 ≤ values.length + pads) := by
  induction group generalizing found pads with
  | nil =>
    simp only [lastValues, Except.ok.injEq, Prod.mk.injEq] at h
    obtain ⟨rfl, rfl⟩ := h
    exact ⟨[], 0, rfl, (List.append_nil _).symm, rfl, List.forall_mem_nil _, fun _ => rfl, nofun⟩
  | cons b group ih =>
    rw [lastValues] at h
    split at h
    · rename_i hpad
      split at h
      · cases h
      · rename_i henough
        obtain ⟨vs, k, rfl, rfl, rfl, -, hnone, -⟩ := ih h
        obtain rfl := hnone (Nat.succ_pos pads)
        refine ⟨[], k + 1, ?_, rfl, by omega, List.forall_mem_nil _, fun _ => rfl, fun _ => ?_⟩
        · rw [hpad, List.map_nil, List.nil_append, List.replicate_succ]
          rfl
        · rw [List.append_nil, List.length_reverse]
          exact Nat.not_lt.mp henough
    · split at h
      · cases h
      · rename_i hpads
        split at h
        · cases h
        · rename_i v hvalue
          obtain ⟨hv, rfl⟩ := eq_symbol hvalue
          obtain ⟨vs, k, rfl, rfl, rfl, hvs, -, henough⟩ := ih h
          refine ⟨v :: vs, k, rfl, ?_, rfl, List.forall_mem_cons.mpr ⟨hv, hvs⟩, fun hp => absurd hp hpads, henough⟩
          rw [List.reverse_cons, List.append_assoc, List.singleton_append]

section

variable {w x y z : Nat}

theorem toNat_first (hw : w < 64) (hx : x < 64) : (UInt8.ofNat (w * 4 + x / 16)).toNat = w * 4 + x / 16 := by
  rw [UInt8.toNat_ofNat', Nat.mod_eq_of_lt (by omega)]

theorem symbols_first (hx : x < 64) : (w * 4 + x / 16) / 4 = w ∧ (w * 4 + x / 16) % 4 * 16 = x / 16 * 16 := by
  omega

theorem toNat_second (hy : y < 64) : (UInt8.ofNat (x % 16 * 16 + y / 4)).toNat = x % 16 * 16 + y / 4 := by
  rw [UInt8.toNat_ofNat', Nat.mod_eq_of_lt (by omega)]

theorem symbols_second (hy : y < 64) : x / 16 * 16 + (x % 16 * 16 + y / 4) / 16 = x ∧
    (x % 16 * 16 + y / 4) % 16 * 4 = y / 4 * 4 := by
  omega

theorem encode_octets (hw : w < 64) (hx : x < 64) (hy : y < 64) (hz : z < 64) (rest : Octets) :
    encode (octets w x y z ++ rest) = symbol w :: symbol x :: symbol y :: symbol z :: encode rest := by
  have hthird : (UInt8.ofNat (y % 4 * 64 + z)).toNat = y % 4 * 64 + z := by
    rw [UInt8.toNat_ofNat', Nat.mod_eq_of_lt (by omega)]
  have hy' : y / 4 * 4 + (y % 4 * 64 + z) / 64 = y := by omega
  have hz' : (y % 4 * 64 + z) % 64 = z := by omega
  simp only [octets, List.cons_append, List.nil_append, encode, toNat_first hw hx, toNat_second hy, hthird,
    symbols_first hx, symbols_second hy, hy', hz']

theorem encode_one (hw : w < 64) (hx : x < 64) (hrest : x % 16 = 0) :
    encode ((octets w x 0 0).take 1) = [symbol w, symbol x, padOctet, padOctet] := by
  have hx' : x / 16 * 16 = x := by omega
  simp only [octets, List.take_succ_cons, List.take_zero, encode, toNat_first hw hx, symbols_first hx, hx']

theorem encode_two (hw : w < 64) (hx : x < 64) (hy : y < 64) (hrest : y % 4 = 0) :
    encode ((octets w x y 0).take 2) = [symbol w, symbol x, symbol y, padOctet] := by
  have hy' : y / 4 * 4 = y := by omega
  simp only [octets, List.take_succ_cons, List.take_zero, encode, toNat_first hw hx, toNat_second hy,
    symbols_first hx, symbols_second hy, hy']

end

theorem forall_mem_pair {p : Nat → Prop} {v v' : Nat} {vs : List Nat} :
    (∀ u ∈ v :: v' :: vs, p u) ↔ p v ∧ p v' ∧ ∀ u ∈ vs, p u := by
  rw [List.forall_mem_cons, List.forall_mem_cons]

theorem eq_encode_of_decodeLast {offset : Nat} {group octets : Octets} (hl : group.length ≤ 4)
    (h : decodeLast offset group = .ok octets) : group = encode octets := by
  unfold decodeLast at h
  cases hvalues : lastValues offset group [] 0 with
  | error flaw =>
    rw [hvalues] at h
    cases h
  | ok read =>
    obtain ⟨values, pads⟩ := read
    obtain ⟨_, k, rfl, rfl, rfl, hsymbols, -, hpads⟩ := eq_of_lastValues hvalues
    rw [hvalues] at h
    simp only [List.length_append, List.length_map, List.length_replicate, Nat.zero_add, Nat.add_zero, bind,
      Except.bind] at h hl hpads
    split at h
    · cases h
    · rename_i hfull
      rw [bne_iff_ne] at hfull
      rcases values with _ | ⟨w, _ | ⟨x, _ | ⟨y, _ | ⟨z, _ | ⟨v, vs⟩⟩⟩⟩⟩
      all_goals simp only [List.length_cons, List.length_nil, Nat.zero_add] at hl hfull hpads
      · obtain rfl : k = 0 := by omega
        obtain rfl : [] = octets := Except.ok.inj h
        rfl
      · cases h
      · obtain rfl : k = 2 := by omega
        obtain ⟨hw, hx, -⟩ := forall_mem_pair.mp hsymbols
        dsimp only at h
        split at h
        · rename_i hrest
          obtain rfl := Except.ok.inj h
          rw [encode_one hw hx hrest]
          rfl
        · cases h
      · obtain rfl : k = 1 := by omega
        obtain ⟨hw, hx, hy⟩ := forall_mem_pair.mp hsymbols
        dsimp only at h
        split at h
        · rename_i hrest
          obtain rfl := Except.ok.inj h
          rw [encode_two hw hx (hy y List.mem_cons_self) hrest]
          rfl
        · cases h
      · obtain rfl : k = 0 := by omega
        obtain ⟨hw, hx, hyz⟩ := forall_mem_pair.mp hsymbols
        obtain ⟨hy, hz, -⟩ := forall_mem_pair.mp hyz
        obtain rfl : Base64.octets w x y z = octets := Except.ok.inj h
        have hencode := encode_octets hw hx hy hz []
        rw [List.append_nil] at hencode
        rw [hencode]
        rfl
      · omega

theorem decodeLast_encode (offset : Nat) {octets : Octets} (hl : octets.length ≤ 3) :
    decodeLast offset (encode octets) = .ok octets := by
  rcases octets with _ | ⟨a, _ | ⟨b, _ | ⟨c, _ | ⟨d, rest⟩⟩⟩⟩
  · rfl
  · have ha := a.toNat_lt
    have hgroup := octets_symbols a 0 0
    simp only [UInt8.toNat_zero, Nat.zero_div, Nat.add_zero, Nat.zero_mod, Nat.zero_mul] at hgroup
    have hsymbols : ∀ v ∈ [a.toNat / 4, a.toNat % 4 * 16], v < 64 :=
      forall_mem_pair.mpr ⟨by omega, by omega, List.forall_mem_nil _⟩
    have hread := lastValues_group offset hsymbols (k := 2) (.inr (le_refl 2))
    have hrest : a.toNat % 4 * 16 % 16 = 0 := by omega
    simp only [List.map_cons, List.map_nil, List.replicate, List.cons_append, List.nil_append] at hread
    simp [decodeLast, encode, hread, bind, Except.bind, hrest, hgroup]
    rfl
  · have ha := a.toNat_lt
    have hb := b.toNat_lt
    have hgroup := octets_symbols a b 0
    simp only [UInt8.toNat_zero, Nat.zero_div, Nat.add_zero, Nat.zero_mod] at hgroup
    have hsymbols : ∀ v ∈ [a.toNat / 4, a.toNat % 4 * 16 + b.toNat / 16, b.toNat % 16 * 4], v < 64 :=
      forall_mem_pair.mpr ⟨by omega, by omega, List.forall_mem_singleton.mpr (by omega)⟩
    have hread := lastValues_group offset hsymbols (k := 1) (.inr (Nat.le_succ 2))
    have hrest : b.toNat % 16 * 4 % 4 = 0 := by omega
    simp only [List.map_cons, List.map_nil, List.replicate, List.cons_append, List.nil_append] at hread
    simp [decodeLast, encode, hread, bind, Except.bind, hrest, hgroup]
    rfl
  · have ha := a.toNat_lt
    have hb := b.toNat_lt
    have hc := c.toNat_lt
    have hsymbols : ∀ v ∈ [a.toNat / 4, a.toNat % 4 * 16 + b.toNat / 16, b.toNat % 16 * 4 + c.toNat / 64,
        c.toNat % 64], v < 64 :=
      forall_mem_pair.mpr ⟨by omega, by omega, forall_mem_pair.mpr ⟨by omega, by omega, List.forall_mem_nil _⟩⟩
    have hread := lastValues_group offset hsymbols (k := 0) (.inl rfl)
    simp only [List.map_cons, List.map_nil, List.replicate, List.append_nil] at hread
    simp [decodeLast, encode, hread, bind, Except.bind, octets_symbols]
    rfl
  · simp only [List.length_cons] at hl
    omega

theorem decodeGroups_eq_ok_cons {offset : Nat} {a b c d e : UInt8} {rest octets : Octets} :
    decodeGroups offset (a :: b :: c :: d :: e :: rest) = .ok octets ↔
      ∃ w x y z more, value? a = some w ∧ value? b = some x ∧ value? c = some y ∧ value? d = some z ∧
        decodeGroups (offset + 4) (e :: rest) = .ok more ∧ octets = Base64.octets w x y z ++ more := by
  rw [decodeGroups]
  cases ha : value? a with
  | none => simp [bind, Except.bind, ha]
  | some w =>
    cases hb : value? b with
    | none => simp [bind, Except.bind, ha, hb]
    | some x =>
      cases hc : value? c with
      | none => simp [bind, Except.bind, ha, hb, hc]
      | some y =>
        cases hd : value? d with
        | none => simp [bind, Except.bind, ha, hb, hc, hd]
        | some z =>
          cases decodeGroups (offset + 4) (e :: rest) with
          | error flaw => simp [bind, Except.bind, ha, hb, hc, hd]
          | ok more => simp [bind, Except.bind, pure, Except.pure, ha, hb, hc, hd, eq_comm]

theorem length_encode (octets : Octets) : (encode octets).length = 4 * ((octets.length + 2) / 3) := by
  induction octets using encode.induct with
  | case1 => rfl
  | case2 a => simp [encode]
  | case3 a b => simp [encode]
  | case4 a b c rest ih =>
    simp only [encode, List.length_cons, ih]
    omega

theorem decodeGroups_eq_ok {offset : Nat} {text octets : Octets} :
    decodeGroups offset text = .ok octets ↔ text = encode octets := by
  induction offset, text using decodeGroups.induct generalizing octets with
  | case1 offset a b c d e rest ih =>
    rw [decodeGroups_eq_ok_cons]
    constructor
    · rintro ⟨w, x, y, z, more, ha, hb, hc, hd, hmore, rfl⟩
      obtain ⟨hw, rfl⟩ := eq_symbol ha
      obtain ⟨hx, rfl⟩ := eq_symbol hb
      obtain ⟨hy, rfl⟩ := eq_symbol hc
      obtain ⟨hz, rfl⟩ := eq_symbol hd
      rw [encode_octets hw hx hy hz, ih.mp hmore]
    · intro h
      rcases octets with _ | ⟨p, _ | ⟨q, _ | ⟨r, more⟩⟩⟩
      · cases h
      · cases h
      · cases h
      · have hp := p.toNat_lt
        have hq := q.toNat_lt
        have hr := r.toNat_lt
        simp only [encode, List.cons.injEq] at h
        obtain ⟨rfl, rfl, rfl, rfl, hmore⟩ := h
        refine ⟨_, _, _, _, more, value_symbol _ (by omega), value_symbol _ (by omega), value_symbol _ (by omega),
          value_symbol _ (by omega), ih.mpr hmore, ?_⟩
        rw [octets_symbols]
        rfl
  | case2 offset group hgroup =>
    have hl : group.length ≤ 4 := by
      rcases group with _ | ⟨a, _ | ⟨b, _ | ⟨c, _ | ⟨d, _ | ⟨e, rest⟩⟩⟩⟩⟩
      all_goals first | exact (hgroup _ _ _ _ _ _ rfl).elim | simp
    rw [decodeGroups.eq_2 _ _ hgroup]
    constructor
    · exact eq_encode_of_decodeLast hl
    · rintro rfl
      apply decodeLast_encode
      rw [length_encode] at hl
      omega

theorem decode_eq_ok {text octets : Octets} : decode text = .ok octets ↔ text = encode octets := by
  cases hlast : text.getLast? with
  | none =>
    obtain rfl := List.getLast?_eq_none_iff.mp hlast
    constructor
    · intro h
      obtain rfl : [] = octets := Except.ok.inj h
      rfl
    · intro h
      have hlength := congrArg List.length h
      rw [length_encode, List.length_nil] at hlength
      obtain rfl : octets = [] := List.length_eq_zero_iff.mp (by omega)
      rfl
  | some b =>
    simp only [decode, hlast]
    split
    · rename_i hsingle
      -- A symbol too many: the length is no multiple of four.
      constructor
      · intro h
        cases h
      · rintro rfl
        rw [length_encode] at hsingle
        omega
    · exact decodeGroups_eq_ok

end CertEnroll.Text.Base64
