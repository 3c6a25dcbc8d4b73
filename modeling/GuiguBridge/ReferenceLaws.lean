import GuiguBridge.Reference
import GuiguBridge.Storage.RowCodec

/-!
# The computed crates keep the laws

The instance `Reference.reference` satisfies every law that the results of this development
assume of the crates, for every instant, identity and payload.

* `readHex_hexDigits`, `parseUuid_uuidText` — hexadecimal texts read back;
* `utf8ByteSize_bounds` — the bytes of a text, counted by its characters;
* `parseFromRfc3339_render`, `parseDateTime_render` — the texts of instants;
* `lawful` — **all of `LawfulCrates`**.
-/

namespace GuiguBridge

namespace Reference

/-! ### Identities -/

theorem hexVal_hexChar {d : Nat} (h : d < 16) : Json.hexVal (Json.hexChar d) = some d := by
  interval_cases d <;> decide

theorem readHex_append (w v acc : Nat) (cs : List Char) :
    readHex (w + v) acc cs = (readHex w acc cs).bind fun r => readHex v r.1 r.2 := by
  induction w generalizing acc cs with
  | zero => rw [Nat.zero_add]; rfl
  | succ w ih =>
    rw [Nat.succ_add]
    cases cs with
    | nil => rfl
    | cons c cs =>
      show ((Json.hexVal c).bind fun d => readHex (w + v) (16 * acc + d) cs) = _
      cases hd : Json.hexVal c with
      | none => simp only [readHex, hd, Option.bind_none]
      | some d => simp only [readHex, hd, Option.bind_some, ih]

theorem readHex_hexDigits (w n : Nat) (rest : List Char) :
    ∀ acc, readHex w acc (hexDigits w n ++ rest) =
      some (acc * 16 ^ w + n % 16 ^ w, rest) := by
  induction w generalizing n rest with
  | zero =>
    intro acc
    simp [readHex, hexDigits, Nat.mod_one]
  | succ w ih =>
    intro acc
    have hlast : Json.hexVal (Json.hexChar (n % 16)) = some (n % 16) :=
      hexVal_hexChar (Nat.mod_lt n (by omega))
    have hvalue : 16 * (acc * 16 ^ w + n / 16 % 16 ^ w) + n % 16 =
        acc * 16 ^ (w + 1) + n % 16 ^ (w + 1) := by
      rw [pow_succ', Nat.mod_mul]
      ring
    rw [readHex_append, hexDigits, List.append_assoc, ih, Option.bind_some]
    simp only [readHex, List.singleton_append, hlast, Option.bind_some, hvalue]

theorem parseUuid_uuidText (u : Uuid) : parseUuid (uuidText u) = some u := by
  have hlt : u.toNat < 16 ^ 32 := u.isLt
  have hdash : ∀ cs, Rfc3339.readChar '-' ('-' :: cs) = some cs := by
    intro cs
    simp [Rfc3339.readChar]
  -- the last block ends the text
  have hlast : ∀ acc, readHex 12 acc (hexDigits 12 u.toNat) =
      some (acc * 16 ^ 12 + u.toNat % 16 ^ 12, []) := by
    intro acc
    rw [← readHex_hexDigits, List.append_nil]
  have hvalue : (((((0 * 16 ^ 8 + u.toNat / 16 ^ 24 % 16 ^ 8) * 16 ^ 4 +
      u.toNat / 16 ^ 20 % 16 ^ 4) * 16 ^ 4 + u.toNat / 16 ^ 16 % 16 ^ 4) * 16 ^ 4 +
      u.toNat / 16 ^ 12 % 16 ^ 4) * 16 ^ 12 + u.toNat % 16 ^ 12) = u.toNat := by
    omega
  rw [parseUuid, uuidText, String.toList_ofList]
  simp only [List.append_assoc, List.cons_append, readHex_hexDigits, hlast,
    Option.bind_eq_bind, Option.bind_some, hdash, hvalue, if_true, BitVec.ofNat_toNat,
    BitVec.setWidth_eq]

/-! ### Sizes of texts -/

/-- A text has at least one byte for each character and at most four. -/
theorem utf8ByteSize_bounds (cs : List Char) :
    cs.length ≤ (String.ofList cs).utf8ByteSize ∧
      (String.ofList cs).utf8ByteSize ≤ 4 * cs.length := by
  induction cs with
  | nil => exact ⟨Nat.le_refl 0, Nat.le_refl 0⟩
  | cons c cs ih =>
    have hsize : (String.ofList (c :: cs)).utf8ByteSize =
        c.utf8Size + (String.ofList cs).utf8ByteSize := by
      rw [String.ofList_cons]
      simp
    have hpos := c.utf8Size_pos
    have hle := c.utf8Size_le_four
    rw [hsize, List.length_cons]
    omega

theorem length_hexDigits (w n : Nat) : (hexDigits w n).length = w := by
  induction w generalizing n with
  | zero => rfl
  | succ w ih => simp [hexDigits, ih]

/-- A hexadecimal digit or a dash stands for itself in a document. -/
theorem escape_hexChar (n : Nat) : Json.escape (Json.hexChar (n % 16)) = [Json.hexChar (n % 16)] := by
  have hlt : n % 16 < 16 := Nat.mod_lt n (by omega)
  generalize n % 16 = d at hlt
  interval_cases d <;> decide

theorem escape_hexDigits (w n : Nat) : (hexDigits w n).flatMap Json.escape = hexDigits w n := by
  induction w generalizing n with
  | zero => rfl
  | succ w ih => rw [hexDigits, List.flatMap_append, ih, List.flatMap_singleton, escape_hexChar]

/-- The text of an identity has one length. -/
theorem length_renderString_uuidText (u : Uuid) :
    (Json.renderString (uuidText u)).length = 38 := by
  have hdash : Json.escape '-' = ['-'] := by decide
  simp [Json.renderString, uuidText, escape_hexDigits, hdash, length_hexDigits]

/-! ### Instants -/

theorem ofParts_parts (t : DateTime) : ofParts (t.secs, t.frac) = some t :=
  dif_pos ⟨t.frac_lt, t.leap⟩

theorem parseFromRfc3339_render (fraction : Rfc3339.Fraction) (zone : Rfc3339.Zone)
    (t : DateTime) :
    Externals.parseFromRfc3339 (String.ofList (Rfc3339.render fraction zone t.secs t.frac)) =
      if t.FourDigitYear then some t else none := by
  show (Rfc3339.parseStrict (String.ofList _).toList).bind ofParts = _
  rw [String.toList_ofList, Rfc3339.parseStrict_render fraction zone t.frac_lt t.leap]
  by_cases h : t.FourDigitYear
  · rw [if_pos h, if_pos (show Rfc3339.FourDigitYear t.secs from h), Option.bind_some,
      ofParts_parts]
  · rw [if_neg h, if_neg (show ¬ Rfc3339.FourDigitYear t.secs from h), Option.bind_none]

theorem parseDateTime_render (fraction : Rfc3339.Fraction) (zone : Rfc3339.Zone)
    (t : DateTime) :
    Externals.parseDateTime (String.ofList (Rfc3339.render fraction zone t.secs t.frac)) =
      some t := by
  show (Rfc3339.parseRelaxed (String.ofList _).toList).bind ofParts = _
  rw [String.toList_ofList, Rfc3339.parseRelaxed_render fraction zone t.frac_lt t.leap,
    Option.bind_some, ofParts_parts]

/-- **The computed crates keep every law.** -/
theorem lawful : LawfulCrates where
  rfc3339Nanos t := parseFromRfc3339_render .nanos .zulu t
  toRfc3339 t := parseFromRfc3339_render .auto .offset t
  serdeDateTime t := parseDateTime_render .auto .zulu t
  uuidText := parseUuid_uuidText
  jsonText payload := by
    show Json.parse (String.ofList _).toList = _
    rw [String.toList_ofList, Json.parse_render]
  queuedText := by
    have htext : "\"queued\"".toList = (Json.str "queued").render := by decide
    show Json.parse "\"queued\"".toList = _
    rw [htext, Json.parse_render]
  kindText := by
    have htext : "\x7b\"kind\":\"queued\"\x7d".toList =
        (Json.obj [("kind", .str "queued")]).render := by decide
    show Json.parse "\x7b\"kind\":\"queued\"\x7d".toList = _
    rw [htext, Json.parse_render]

end Reference

end GuiguBridge
