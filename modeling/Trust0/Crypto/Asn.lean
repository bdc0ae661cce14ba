import Mathlib.Algebra.Group.Int
import Mathlib.Data.Nat.Digits
import Trust0.Model
/-
`crypto::asn::stringify_asn_value`: the printable string of an X.509 attribute value, by the
tag of its `asn1_rs::Any`. The conversions of `asn1_rs` the code calls are an input
(`Asn1Rs`), with the facts about them the code relies on: `as_i64` returns the content's value
in an `i64`, and an OID borrows the content octets. What the code does with their results is
modelled as written: the `unwrap` of the INTEGER branch, the octets in `{:02x}`, and the
rendering of every OID as the absolute OID `DerOid::new(bytes)` through `format_oid` with the
default (empty) registry, whose `Display` is asn1_rs's `to_id_string`. `contentLib` is one
library that all these facts hold of, and the theorems over every library are applied to it.

The last section reads the rendering of an OBJECT IDENTIFIER back against its X.690 encoding:
which OIDs come out in dotted decimal, and which in hexadecimal.
-/

namespace Trust0

namespace Asn

/-- An `asn1_rs::Tag`: the number of a universal tag. -/
structure Tag where
  val : UInt32
  deriving DecidableEq, Repr

namespace Tag

/- The universal tags of X.680 that `stringify_asn_value` names. -/
def boolean : Tag := ⟨1⟩
def integer : Tag := ⟨2⟩
def octetString : Tag := ⟨4⟩
def oid : Tag := ⟨6⟩
def enumerated : Tag := ⟨10⟩
def utf8String : Tag := ⟨12⟩
def relativeOid : Tag := ⟨13⟩
def printableString : Tag := ⟨19⟩
def ia5String : Tag := ⟨22⟩
def utcTime : Tag := ⟨23⟩
def generalizedTime : Tag := ⟨24⟩
def generalString : Tag := ⟨27⟩

/-- The tags `stringify_asn_value` has a branch for. -/
def supported : List Tag :=
  [boolean, enumerated, generalizedTime, generalString, ia5String, integer, octetString, oid,
    printableString, relativeOid, utcTime, utf8String]

end Tag

/-- An `asn1_rs::Any`: the header's tag and the content octets. -/
structure Any where
  tag : Tag
  data : List UInt8
  deriving DecidableEq, Repr

/-- An `asn1_rs::Error`; the code only boxes it. -/
structure Asn1Error where
  description : String

/-- The value of an INTEGER's content octets (X.690 8.3): big-endian two's complement. -/
def integerValue (bytes : List UInt8) : Int :=
  let unsigned : Int := bytes.foldl (fun acc b => 256 * acc + b.toNat) 0
  match bytes with
  | b :: _ => if 128 ≤ b.toNat then unsigned - 256 ^ bytes.length else unsigned
  | [] => 0

/-- The range of `i64`. -/
def fitsI64 (v : Int) : Prop := -2 ^ 63 ≤ v ∧ v < 2 ^ 63

instance : DecidablePred fitsI64 := fun v => inferInstanceAs (Decidable (-2 ^ 63 ≤ v ∧ v < 2 ^ 63))

/-- The conversions of `asn1_rs` that `stringify_asn_value` calls, as it uses them: each `Any`
accessor's result (the rendered value where the code only calls `to_string` or `string()` on it,
the octets where it reads them), `Integer::as_i64`, and the tag's `Display`. -/
structure Asn1Rs where
  bool : Any → Except Asn1Error Bool
  enumerated : Any → Except Asn1Error UInt32
  generalizedtime : Any → Except Asn1Error String
  generalstring : Any → Except Asn1Error String
  ia5string : Any → Except Asn1Error String
  integer : Any → Except Asn1Error (List UInt8)
  octetstring : Any → Except Asn1Error (List UInt8)
  oid : Any → Except Asn1Error (List UInt8)
  printablestring : Any → Except Asn1Error String
  utctime : Any → Except Asn1Error String
  utf8string : Any → Except Asn1Error String
  asI64 : List UInt8 → Except Asn1Error Int
  displayTag : Tag → String
  /-- `as_i64` returns the content's value, which is an `i64`. -/
  asI64_value : ∀ bytes v, asI64 bytes = .ok v → v = integerValue bytes ∧ fitsI64 v
  /-- An OCTET STRING borrows the content octets. -/
  octetstring_data : ∀ any bytes, octetstring any = .ok bytes → bytes = any.data
  /-- An OID borrows the content octets as its encoding. -/
  oid_data : ∀ any bytes, oid any = .ok bytes → bytes = any.data

/-- The text of a string type read one octet a character, refused past ASCII. -/
def asciiText (any : Any) : Except Asn1Error String :=
  if any.data.all (·.toNat < 128) then .ok ⟨any.data.map fun b => Char.ofNat b.toNat⟩
  else .error ⟨"invalid string"⟩

/-- One library the model's facts hold of: it hands over the content octets of INTEGER, OCTET
STRING and OID, reads a BOOLEAN from one octet and an ENUMERATED as an INTEGER that fits a
`u32`, takes ASCII text for the string and time types, and has `as_i64` refuse every value
outside `i64`. -/
def contentLib : Asn1Rs where
  bool any := match any.data with
    | [b] => .ok (b != 0)
    | _ => .error ⟨"invalid BOOLEAN"⟩
  enumerated any :=
    if 0 ≤ integerValue any.data ∧ integerValue any.data < UInt32.size then
      .ok (UInt32.ofNat (integerValue any.data).toNat)
    else .error ⟨"invalid ENUMERATED"⟩
  generalizedtime := asciiText
  generalstring := asciiText
  ia5string := asciiText
  integer any := .ok any.data
  octetstring any := .ok any.data
  oid any := .ok any.data
  printablestring := asciiText
  utctime := asciiText
  utf8string := asciiText
  asI64 bytes := if fitsI64 (integerValue bytes) then .ok (integerValue bytes)
    else .error ⟨"IntegerTooLarge"⟩
  displayTag tag := toString tag.val
  asI64_value bytes v h := by
    by_cases hfits : fitsI64 (integerValue bytes)
    · simp only [hfits, if_true, Except.ok.injEq] at h
      exact ⟨h.symm, h ▸ hfits⟩
    · simp only [hfits, if_false] at h
      cases h
  octetstring_data _ _ h := (Except.ok.inj h).symm
  oid_data _ _ h := (Except.ok.inj h).symm

/-- A digit of `{:02x}`: lowercase hexadecimal. -/
def hexDigit (d : Nat) : Char :=
  if d < 10 then Char.ofNat (48 + d) else Char.ofNat (87 + d)

/-- `format!("{:02x}", x)` for an octet: two hexadecimal digits. -/
def hexByte (x : UInt8) : List Char :=
  [hexDigit (x.toNat / 16), hexDigit (x.toNat % 16)]

/-- The OCTET STRING rendering: `{:02x}` of each octet, collected in order. -/
def octetHex (bytes : List UInt8) : String :=
  ⟨bytes.flatMap hexByte⟩

/-- Base-128 sub-identifiers as `SubIdentifierIterator` reads them: seven bits from each octet,
an arc ending at an octet with its high bit clear, or at the end of the octets. `acc` is the arc
read so far, `started` whether one is under way. -/
def subIdentifiers (acc : Nat) (started : Bool) : List UInt8 → List Nat
  | [] => if started then [acc] else []
  | b :: rest =>
    if b.toNat < 128 then (128 * acc + b.toNat) :: subIdentifiers 0 false rest
    else subIdentifiers (128 * acc + (b.toNat - 128)) true rest

/-- The arcs of an absolute OID: the first octet `b` as `b / 40` and `b % 40` (only `0` for the
lone octet `0`), then the sub-identifiers of the rest. -/
def absoluteArcs : List UInt8 → List Nat
  | [] => []
  | b :: rest =>
    if b = 0 ∧ rest = [] then [0]
    else (b.toNat / 40) :: (b.toNat % 40) :: subIdentifiers 0 false rest

/-- The widest arc, in bits, as `Oid::iter` measures it over the octets after the first before it
decodes into `u64`. -/
def maxArcBits (bytes : List UInt8) : Nat :=
  (bytes.foldl (fun (bits : Nat × Nat) b =>
    if b.toNat < 128 then (max bits.1 (bits.2 + 7), 0) else (bits.1, bits.2 + 7)) (0, 0)).1

/-- `format_oid(&DerOid::new(bytes), &OidRegistry::default())`. The default registry names no
OID, so this is the `Display` of the absolute OID, `to_id_string`: its arcs in decimal joined by
dots, or, when an arc does not fit in `u64`, its octets in `{:02x}` joined by spaces. -/
def formatOid (bytes : List UInt8) : String :=
  if maxArcBits bytes.tail ≤ 64 then ".".intercalate ((absoluteArcs bytes).map toString)
  else " ".intercalate (bytes.map fun b => ⟨hexByte b⟩)

/-- The error every failed conversion becomes, `convert_err_fn`. -/
def conversionError : AppError :=
  .genWithMsgAndErr "Failed ASN value conversion"

/-- `.map(render).or_else(convert_err_fn)` on a conversion's result. -/
def renderOr {α : Type} (result : Except Asn1Error α) (render : α → String) :
    Except AppError String :=
  match result with
  | .ok v => .ok (render v)
  | .error _ => .error conversionError

/-- `stringify_asn_value`. `none` is a panic: the `unwrap` of the INTEGER branch when `as_i64`
fails. -/
def stringifyAsnValue (lib : Asn1Rs) (asnAttr : Any) : Option (Except AppError String) :=
  if asnAttr.tag = Tag.boolean then some (renderOr (lib.bool asnAttr) toString)
  else if asnAttr.tag = Tag.enumerated then some (renderOr (lib.enumerated asnAttr) toString)
  else if asnAttr.tag = Tag.generalizedTime then some (renderOr (lib.generalizedtime asnAttr) id)
  else if asnAttr.tag = Tag.generalString then some (renderOr (lib.generalstring asnAttr) id)
  else if asnAttr.tag = Tag.ia5String then some (renderOr (lib.ia5string asnAttr) id)
  else if asnAttr.tag = Tag.integer then
    match lib.integer asnAttr with
    | .ok bytes =>
      match lib.asI64 bytes with
      | .ok v => some (.ok (toString v))
      | .error _ => none
    | .error _ => some (.error conversionError)
  else if asnAttr.tag = Tag.octetString then some (renderOr (lib.octetstring asnAttr) octetHex)
  else if asnAttr.tag = Tag.oid then some (renderOr (lib.oid asnAttr) formatOid)
  else if asnAttr.tag = Tag.printableString then some (renderOr (lib.printablestring asnAttr) id)
  else if asnAttr.tag = Tag.relativeOid then some (renderOr (lib.oid asnAttr) formatOid)
  else if asnAttr.tag = Tag.utcTime then some (renderOr (lib.utctime asnAttr) id)
  else if asnAttr.tag = Tag.utf8String then some (renderOr (lib.utf8string asnAttr) id)
  else some (.error (.general ("unsupported tag " ++ lib.displayTag asnAttr.tag)))

section Stringify

variable (lib : Asn1Rs)

theorem ite_some_ne_none {α : Type} {c : Prop} [Decidable c] {a : α} {rest : Option α}
    (h : rest ≠ none) : (if c then some a else rest) ≠ none := by
  split
  · exact Option.some_ne_none a
  · exact h

/-- Every branch but the INTEGER one returns. -/
theorem stringifyAsnValue_ne_none {asnAttr : Any} (h : asnAttr.tag ≠ Tag.integer) :
    stringifyAsnValue lib asnAttr ≠ none := by
  rw [stringifyAsnValue, if_neg h]
  repeat refine ite_some_ne_none ?_
  exact Option.some_ne_none _

/-- The INTEGER branch. -/
theorem stringifyAsnValue_integer {asnAttr : Any} (h : asnAttr.tag = Tag.integer) :
    stringifyAsnValue lib asnAttr =
      match lib.integer asnAttr with
      | .ok bytes =>
        match lib.asI64 bytes with
        | .ok v => some (.ok (toString v))
        | .error _ => none
      | .error _ => some (.error conversionError) := by
  simp only [stringifyAsnValue, h]
  rfl

/-- `stringify_asn_value` panics exactly on an INTEGER whose content `integer()` accepts and
`as_i64` refuses. -/
theorem stringifyAsnValue_panics_iff (asnAttr : Any) :
    stringifyAsnValue lib asnAttr = none ↔ asnAttr.tag = Tag.integer ∧
      ∃ bytes err, lib.integer asnAttr = .ok bytes ∧ lib.asI64 bytes = .error err := by
  by_cases htag : asnAttr.tag = Tag.integer
  · rw [stringifyAsnValue_integer lib htag]
    simp only [htag, true_and]
    cases lib.integer asnAttr with
    | error => simp
    | ok bytes => cases hres : lib.asI64 bytes <;> simp [hres]
  · simp only [htag, false_and, iff_false]
    exact stringifyAsnValue_ne_none lib htag

/-- At `contentLib`, the INTEGER `2 ^ 64`, content `01 00 00 00 00 00 00 00 00`, panics. -/
theorem contentLib_integer_two_pow_64_panics :
    stringifyAsnValue contentLib ⟨Tag.integer, [1, 0, 0, 0, 0, 0, 0, 0, 0]⟩ = none :=
  (stringifyAsnValue_panics_iff contentLib _).2 ⟨rfl, _, _, rfl, rfl⟩

/-- `as_i64` refuses a content whose value is not an `i64`. -/
theorem asI64_error_of_not_fits {bytes : List UInt8} (h : ¬fitsI64 (integerValue bytes)) :
    ∃ err, lib.asI64 bytes = .error err := by
  cases hres : lib.asI64 bytes with
  | error err => exact ⟨err, rfl⟩
  | ok v =>
    obtain ⟨rfl, hfits⟩ := lib.asI64_value bytes v hres
    exact absurd hfits h

/-- An INTEGER beyond `i64` that `integer()` accepts panics. -/
theorem stringifyAsnValue_eq_none_of_not_fits {asnAttr : Any} {bytes : List UInt8}
    (htag : asnAttr.tag = Tag.integer) (hint : lib.integer asnAttr = .ok bytes)
    (hbig : ¬fitsI64 (integerValue bytes)) : stringifyAsnValue lib asnAttr = none := by
  obtain ⟨err, herr⟩ := asI64_error_of_not_fits lib hbig
  simp only [stringifyAsnValue_integer lib htag, hint, herr]

/-- The content `01 00 00 00 00 00 00 00 00` is `2 ^ 64`, beyond `i64`. -/
theorem integerValue_two_pow_64 :
    integerValue [1, 0, 0, 0, 0, 0, 0, 0, 0] = 2 ^ 64 ∧ ¬fitsI64 (2 ^ 64) := by
  decide

/-- Every tag without a branch is refused with its name. -/
theorem stringifyAsnValue_unsupported {asnAttr : Any} (h : asnAttr.tag ∉ Tag.supported) :
    stringifyAsnValue lib asnAttr =
      some (.error (.general ("unsupported tag " ++ lib.displayTag asnAttr.tag))) := by
  simp only [Tag.supported, List.mem_cons, List.mem_singleton, not_or] at h
  obtain ⟨h1, h2, h3, h4, h5, h6, h7, h8, h9, h10, h11, h12⟩ := h
  simp only [stringifyAsnValue, h1, h2, h3, h4, h5, h6, h7, h8, h9, h10, h11, h12, if_false]

/-- The RELATIVE-OID branch renders the octets `oid()` hands over as an absolute OID. -/
theorem stringifyAsnValue_relativeOid (data : List UInt8) :
    stringifyAsnValue lib ⟨Tag.relativeOid, data⟩ =
      some (renderOr (lib.oid ⟨Tag.relativeOid, data⟩) formatOid) := rfl

/-- The RELATIVE-OID `1.2`, content `01 02`, never renders as `1.2`: `oid()` either fails or
hands over its octets, which render as the absolute OID `0.1.2`. -/
theorem relative_oid_one_two_not_dotted :
    stringifyAsnValue lib ⟨Tag.relativeOid, [1, 2]⟩ ≠ some (.ok "1.2") := by
  rw [stringifyAsnValue_relativeOid]
  cases hoid : lib.oid ⟨Tag.relativeOid, [1, 2]⟩ with
  | error => simp [renderOr]
  | ok bytes =>
    obtain rfl := lib.oid_data _ bytes hoid
    have hformat : formatOid [1, 2] = "0.1.2" := by decide
    simp [renderOr, hformat]

/-- At `contentLib`, the RELATIVE-OID `1.2` renders as `0.1.2`. -/
theorem contentLib_relative_oid_one_two :
    stringifyAsnValue contentLib ⟨Tag.relativeOid, [1, 2]⟩ = some (.ok "0.1.2") ∧
      stringifyAsnValue contentLib ⟨Tag.relativeOid, [1, 2]⟩ ≠ some (.ok "1.2") :=
  ⟨congrArg (some ∘ Except.ok) (by decide : formatOid [1, 2] = "0.1.2"),
    relative_oid_one_two_not_dotted contentLib⟩

/-- The OCTET STRING branch renders the content's octets. -/
theorem stringifyAsnValue_octetString {data bytes : List UInt8}
    (h : lib.octetstring ⟨Tag.octetString, data⟩ = .ok bytes) :
    stringifyAsnValue lib ⟨Tag.octetString, data⟩ = some (.ok (octetHex data)) := by
  obtain rfl := lib.octetstring_data _ bytes h
  show some (renderOr _ octetHex) = _
  rw [h]
  rfl

end Stringify

/-- Reading two hexadecimal digits back. -/
def hexValue (c : Char) : Nat :=
  if c.toNat < 58 then c.toNat - 48 else c.toNat - 87

theorem hexValue_hexDigit : ∀ d < 16, hexValue (hexDigit d) = d := by
  decide

/-- The octets of a rendering, two digits each. -/
def unhex : List Char → List UInt8
  | hi :: lo :: rest => UInt8.ofNat (16 * hexValue hi + hexValue lo) :: unhex rest
  | _ => []

theorem unhex_octetHex (bytes : List UInt8) : unhex (octetHex bytes).data = bytes := by
  induction bytes with
  | nil => rfl
  | cons b bytes ih =>
    have hlt : b.toNat < 256 := b.toBitVec.isLt
    have hhi := hexValue_hexDigit (b.toNat / 16) (by omega)
    have hlo := hexValue_hexDigit (b.toNat % 16) (by omega)
    have hb : UInt8.ofNat (16 * (b.toNat / 16) + b.toNat % 16) = b := by
      rw [Nat.div_add_mod]
      exact UInt8.eq_of_toBitVec_eq (BitVec.eq_of_toNat_eq (UInt8.toBitVec_eq_of_lt b.toBitVec.isLt))
    simp only [octetHex, List.flatMap_cons, hexByte, List.cons_append, List.nil_append, unhex,
      hhi, hlo, hb] at ih ⊢
    exact congrArg _ ih

/-- An OCTET STRING of `n` octets renders as `2 n` characters, and distinct octet strings render
differently. -/
theorem octetHex_length_injective :
    (∀ bytes, (octetHex bytes).length = 2 * bytes.length) ∧ Function.Injective octetHex := by
  refine ⟨fun bytes => ?_, fun a b h => by rw [← unhex_octetHex a, h, unhex_octetHex]⟩
  induction bytes with
  | nil => rfl
  | cons b bytes ih =>
    simp only [octetHex, String.length, List.flatMap_cons, hexByte, List.length_append,
      List.length_cons, List.length_nil] at ih ⊢
    omega

/-- For every library model, the OCTET STRING branch renders the content of `n` octets, in
order, as `2 n` lowercase hexadecimal digits, two for each octet, high half first; distinct
octet strings render differently. -/
theorem stringifyAsnValue_octetString_hex (lib : Asn1Rs) :
    (∀ data bytes, lib.octetstring ⟨Tag.octetString, data⟩ = .ok bytes →
      ∃ s, stringifyAsnValue lib ⟨Tag.octetString, data⟩ = some (.ok s) ∧
        s.length = 2 * data.length ∧
        s.data = data.flatMap fun b => ["0123456789abcdef".data.getD (b.toNat / 16) ' ',
          "0123456789abcdef".data.getD (b.toNat % 16) ' ']) ∧
    ∀ data data' bytes bytes', lib.octetstring ⟨Tag.octetString, data⟩ = .ok bytes →
      lib.octetstring ⟨Tag.octetString, data'⟩ = .ok bytes' →
      stringifyAsnValue lib ⟨Tag.octetString, data⟩ =
        stringifyAsnValue lib ⟨Tag.octetString, data'⟩ →
      data = data' := by
  have htable : ∀ d < 16, hexDigit d = "0123456789abcdef".data.getD d ' ' := by decide
  refine ⟨fun data bytes h => ⟨octetHex data, stringifyAsnValue_octetString lib h,
    octetHex_length_injective.1 data, ?_⟩, fun data data' bytes bytes' h h' heq => ?_⟩
  · refine congrArg data.flatMap (funext fun b => ?_)
    have hb : b.toNat < 256 := b.toBitVec.isLt
    rw [hexByte, htable _ (by omega), htable _ (by omega)]
  · rw [stringifyAsnValue_octetString lib h, stringifyAsnValue_octetString lib h'] at heq
    exact octetHex_length_injective.2 (Except.ok.inj (Option.some.inj heq))

/-- At `contentLib`, the content `ab 01` renders as `ab01`. -/
theorem contentLib_octetString_ab01 :
    ∃ s, stringifyAsnValue contentLib ⟨Tag.octetString, [171, 1]⟩ = some (.ok s) ∧
      s.length = 2 * [171, 1].length ∧
      s.data = [171, 1].flatMap fun (b : UInt8) => ["0123456789abcdef".data.getD (b.toNat / 16) ' ',
        "0123456789abcdef".data.getD (b.toNat % 16) ' '] :=
  (stringifyAsnValue_octetString_hex contentLib).1 [171, 1] [171, 1] rfl

theorem count_intercalate_go {c : Char} {sep : String} {l : List String}
    (hl : ∀ a ∈ l, c ∉ a.data) (acc : String) :
    (String.intercalate.go acc sep l).data.count c =
      acc.data.count c + l.length * sep.data.count c := by
  induction l generalizing acc with
  | nil => simp [String.intercalate.go]
  | cons a l ih =>
    rw [String.intercalate.go, ih fun b hb => hl b (.tail _ hb)]
    simp only [String.data_append, List.count_append,
      List.count_eq_zero_of_not_mem (hl a (.head _)), List.length_cons, Nat.add_one_mul]
    omega

/-- A separator character that no part holds occurs once between each two parts. -/
theorem count_intercalate {c : Char} {sep : String} {l : List String}
    (hl : ∀ a ∈ l, c ∉ a.data) :
    (sep.intercalate l).data.count c = (l.length - 1) * sep.data.count c := by
  cases l with
  | nil => simp [String.intercalate]
  | cons a l =>
    rw [String.intercalate, count_intercalate_go (fun b hb => hl b (.tail _ hb)),
      List.count_eq_zero_of_not_mem (hl a (.head _))]
    simp

/-- A decimal numeral holds neither a dot nor a space. -/
theorem not_mem_toString_nat {c : Char} (hc : c = '.' ∨ c = ' ') (n : Nat) :
    c ∉ (toString n).data := by
  have hdigit : ∀ d < 10, Nat.digitChar d ≠ '.' ∧ Nat.digitChar d ≠ ' ' := by decide
  suffices ∀ fuel n ds, c ∉ ds → c ∉ Nat.toDigitsCore 10 fuel n ds from this _ _ _ (by simp)
  intro fuel
  induction fuel with
  | zero => intro _ _ h; exact h
  | succ fuel ih =>
    intro n ds h
    have hd := hdigit (n % 10) (Nat.mod_lt _ (by decide))
    have hne : Nat.digitChar (n % 10) ≠ c := by rcases hc with rfl | rfl <;> simp [hd]
    simp only [Nat.toDigitsCore]
    split_ifs
    · simpa using ⟨hne.symm, h⟩
    · exact ih _ _ (by simpa using ⟨hne.symm, h⟩)

/-- Text in `{:02x}` holds neither a dot nor a space. -/
theorem not_mem_hexByte {c : Char} (hc : c = '.' ∨ c = ' ') (b : UInt8) : c ∉ hexByte b := by
  have hlt : b.toNat < 256 := b.toBitVec.isLt
  have hdigits : ∀ d < 16, hexDigit d ≠ '.' ∧ hexDigit d ≠ ' ' := by decide
  have hhi := hdigits (b.toNat / 16) (by omega)
  have hlo := hdigits (b.toNat % 16) (by omega)
  rcases hc with rfl | rfl <;> simp [hexByte, hhi.1.symm, hlo.1.symm, hhi.2.symm, hlo.2.symm]

/-- The base-128 digits of an arc, most significant first (X.690 8.19.2); `0` is the one digit
`0`. -/
def arcDigits (n : Nat) : List Nat :=
  if n = 0 then [0] else (Nat.digits 128 n).reverse

/-- The octets of one sub-identifier from its base-128 digits: bit 8 set on every octet but the
last. -/
def subIdentifierOctets : List Nat → List UInt8
  | [] => []
  | [d] => [UInt8.ofNat d]
  | d :: d' :: ds => UInt8.ofNat (d + 128) :: subIdentifierOctets (d' :: ds)

/-- The content octets of an arc after the first two. -/
def arcOctets (n : Nat) : List UInt8 := subIdentifierOctets (arcDigits n)

/-- The content octets of the OBJECT IDENTIFIER `a0.a1.rest` (X.690 8.19): one octet
`40 a0 + a1` for the first two arcs, then each further arc. -/
def oidContent (a0 a1 : Nat) (rest : List Nat) : List UInt8 :=
  UInt8.ofNat (40 * a0 + a1) :: rest.flatMap arcOctets

/-- The dotted-decimal form of an OID's arcs. -/
def dottedArcs (arcs : List Nat) : String := ".".intercalate (arcs.map toString)

/-- One octet of the fold `maxArcBits` makes: the widest arc so far, and the bits of the one
under way. -/
def arcBitsStep (bits : Nat × Nat) (b : UInt8) : Nat × Nat :=
  if b.toNat < 128 then (max bits.1 (bits.2 + 7), 0) else (bits.1, bits.2 + 7)

theorem maxArcBits_eq (bytes : List UInt8) :
    maxArcBits bytes = (bytes.foldl arcBitsStep (0, 0)).1 := rfl

theorem toNat_ofNat_of_lt {n : Nat} (h : n < 256) : (UInt8.ofNat n).toNat = n :=
  UInt8.toNat_ofNat_of_lt h

theorem arcDigits_ne_nil (n : Nat) : arcDigits n ≠ [] := by
  unfold arcDigits
  split_ifs with hn
  · simp
  · simpa using Nat.digits_ne_nil_iff_ne_zero.2 hn

theorem arcDigits_lt {n d : Nat} (hd : d ∈ arcDigits n) : d < 128 := by
  unfold arcDigits at hd
  split_ifs at hd
  · simp_all
  · exact Nat.digits_lt_base (by decide) (List.mem_reverse.1 hd)

theorem foldl_arcDigits (n : Nat) : (arcDigits n).foldl (fun acc d => 128 * acc + d) 0 = n := by
  unfold arcDigits
  split_ifs with hn
  · simp [hn]
  · have hfold : ∀ l : List Nat, l.foldr (fun d acc => 128 * acc + d) 0 = Nat.ofDigits 128 l := by
      intro l
      induction l with
      | nil => rfl
      | cons d l ih => rw [List.foldr_cons, ih, Nat.ofDigits_cons, Nat.add_comm]
    rw [List.foldl_reverse, hfold, Nat.ofDigits_digits]

/-- An arc has at most nine base-128 digits exactly when it is below `2 ^ 63`. -/
theorem length_arcDigits_le_iff (n : Nat) : (arcDigits n).length ≤ 9 ↔ n < 2 ^ 63 := by
  unfold arcDigits
  split_ifs with hn
  · simp [hn]
  · rw [List.length_reverse]
    constructor
    · intro h
      calc n < 128 ^ (Nat.digits 128 n).length := Nat.lt_base_pow_length_digits (by decide)
        _ ≤ 128 ^ 9 := Nat.pow_le_pow_right (by decide) h
        _ = 2 ^ 63 := by decide
    · intro h
      rw [Nat.digits_len 128 n (by decide) hn]
      have hpow : (128 : Nat) ^ 9 = 2 ^ 63 := by decide
      have := Nat.log_lt_of_lt_pow hn (show n < 128 ^ 9 by rw [hpow]; exact h)
      omega

/-- `SubIdentifierIterator` reads a sub-identifier's octets back as the value of its digits. -/
theorem subIdentifiers_subIdentifierOctets {ds : List Nat} (hne : ds ≠ [])
    (hlt : ∀ d ∈ ds, d < 128) (acc : Nat) (started : Bool) (rest : List UInt8) :
    subIdentifiers acc started (subIdentifierOctets ds ++ rest) =
      ds.foldl (fun acc d => 128 * acc + d) acc :: subIdentifiers 0 false rest := by
  induction ds generalizing acc started with
  | nil => exact absurd rfl hne
  | cons d ds ih =>
    have hd : d < 128 := hlt d (.head _)
    cases ds with
    | nil =>
      have hlow : (UInt8.ofNat d).toNat < 128 := by rw [toNat_ofNat_of_lt (by omega)]; exact hd
      rw [subIdentifierOctets, List.singleton_append, subIdentifiers, if_pos hlow,
        toNat_ofNat_of_lt (by omega)]
      rfl
    | cons d' ds =>
      have hhigh : ¬(UInt8.ofNat (d + 128)).toNat < 128 := by
        rw [toNat_ofNat_of_lt (by omega)]; omega
      rw [subIdentifierOctets, List.cons_append, subIdentifiers, if_neg hhigh,
        toNat_ofNat_of_lt (by omega), Nat.add_sub_cancel,
        ih (List.cons_ne_nil _ _) (fun x hx => hlt x (.tail _ hx))]
      rfl

theorem subIdentifiers_flatMap_arcOctets (rest : List Nat) :
    subIdentifiers 0 false (rest.flatMap arcOctets) = rest := by
  induction rest with
  | nil => rfl
  | cons n rest ih =>
    rw [List.flatMap_cons, arcOctets, subIdentifiers_subIdentifierOctets (arcDigits_ne_nil n)
      (fun _ => arcDigits_lt), foldl_arcDigits, ih]

theorem foldl_arcBitsStep_subIdentifierOctets {ds : List Nat} (hne : ds ≠ [])
    (hlt : ∀ d ∈ ds, d < 128) (mx cur : Nat) (rest : List UInt8) :
    (subIdentifierOctets ds ++ rest).foldl arcBitsStep (mx, cur) =
      rest.foldl arcBitsStep (max mx (cur + 7 * ds.length), 0) := by
  induction ds generalizing cur with
  | nil => exact absurd rfl hne
  | cons d ds ih =>
    have hd : d < 128 := hlt d (.head _)
    cases ds with
    | nil =>
      have hlow : (UInt8.ofNat d).toNat < 128 := by rw [toNat_ofNat_of_lt (by omega)]; exact hd
      rw [subIdentifierOctets, List.singleton_append, List.foldl_cons, arcBitsStep, if_pos hlow]
      rfl
    | cons d' ds =>
      have hhigh : ¬(UInt8.ofNat (d + 128)).toNat < 128 := by
        rw [toNat_ofNat_of_lt (by omega)]; omega
      rw [subIdentifierOctets, List.cons_append, List.foldl_cons, arcBitsStep, if_neg hhigh,
        ih (List.cons_ne_nil _ _) (fun x hx => hlt x (.tail _ hx))]
      simp only [List.length_cons]
      congr 3
      omega

theorem foldl_arcBitsStep_flatMap (rest : List Nat) (mx : Nat) :
    (rest.flatMap arcOctets).foldl arcBitsStep (mx, 0) =
      (rest.foldl (fun m n => max m (7 * (arcDigits n).length)) mx, 0) := by
  induction rest generalizing mx with
  | nil => rfl
  | cons n rest ih =>
    rw [List.flatMap_cons, arcOctets, foldl_arcBitsStep_subIdentifierOctets (arcDigits_ne_nil n)
      (fun _ => arcDigits_lt), Nat.zero_add, ih]
    rfl

theorem foldl_max_le_iff {α : Type} (g : α → Nat) (l : List α) (mx k : Nat) :
    l.foldl (fun m a => max m (g a)) mx ≤ k ↔ mx ≤ k ∧ ∀ a ∈ l, g a ≤ k := by
  induction l generalizing mx with
  | nil => simp
  | cons a l ih => rw [List.foldl_cons, ih, max_le_iff, List.forall_mem_cons, and_assoc]

/-- The arcs after the first two fit `Oid::iter`'s `u64` check exactly when each is below
`2 ^ 63`: nine octets of seven bits. -/
theorem maxArcBits_flatMap_arcOctets_le_iff (rest : List Nat) :
    maxArcBits (rest.flatMap arcOctets) ≤ 64 ↔ ∀ n ∈ rest, n < 2 ^ 63 := by
  rw [maxArcBits_eq, foldl_arcBitsStep_flatMap, foldl_max_le_iff]
  simp only [Nat.zero_le, true_and]
  exact forall₂_congr fun n _ => by rw [← length_arcDigits_le_iff]; omega

theorem subIdentifierOctets_ne_nil {ds : List Nat} (hne : ds ≠ []) :
    subIdentifierOctets ds ≠ [] := by
  match ds, hne with
  | [_], _ => simp [subIdentifierOctets]
  | _ :: _ :: _, _ => simp [subIdentifierOctets]

/-- Read back from its content, the OBJECT IDENTIFIER `a0.a1.rest` has its own arcs, whenever
its first two arcs fit the first octet and it is not `0.0`, which reads as `0`. -/
theorem absoluteArcs_oidContent {a0 a1 : Nat} (h0 : a0 < 3) (h1 : a1 < 40) {rest : List Nat}
    (hroot : ¬(a0 = 0 ∧ a1 = 0 ∧ rest = [])) :
    absoluteArcs (oidContent a0 a1 rest) = a0 :: a1 :: rest := by
  have hfirst : (UInt8.ofNat (40 * a0 + a1)).toNat = 40 * a0 + a1 := toNat_ofNat_of_lt (by omega)
  have hnotroot : ¬(UInt8.ofNat (40 * a0 + a1) = 0 ∧ rest.flatMap arcOctets = []) := by
    rintro ⟨hb, hrest⟩
    have hzero : 40 * a0 + a1 = 0 := by rw [← hfirst, hb]; rfl
    refine hroot ⟨by omega, by omega, ?_⟩
    cases rest with
    | nil => rfl
    | cons n rest =>
      rw [List.flatMap_cons] at hrest
      exact absurd (List.append_eq_nil.1 hrest).1 (subIdentifierOctets_ne_nil (arcDigits_ne_nil n))
  rw [oidContent, absoluteArcs, if_neg hnotroot, hfirst, subIdentifiers_flatMap_arcOctets,
    show (40 * a0 + a1) / 40 = a0 by omega, show (40 * a0 + a1) % 40 = a1 by omega]

/-- `format_oid` prints the OBJECT IDENTIFIER `a0.a1.rest` in dotted decimal exactly when every
arc after the first two is below `2 ^ 63`; past that, `Oid::iter` refuses it and the octets are
printed in hexadecimal, arcs that fit a `u64` included. -/
theorem formatOid_oidContent_iff {a0 a1 : Nat} (h0 : a0 < 3) (h1 : a1 < 40) {rest : List Nat}
    (hroot : ¬(a0 = 0 ∧ a1 = 0 ∧ rest = [])) :
    formatOid (oidContent a0 a1 rest) = dottedArcs (a0 :: a1 :: rest) ↔
      ∀ n ∈ rest, n < 2 ^ 63 := by
  rw [← maxArcBits_flatMap_arcOctets_le_iff]
  change (if maxArcBits (rest.flatMap arcOctets) ≤ 64 then _ else _) = _ ↔ _
  split_ifs with hbits
  · simp only [hbits, iff_true, absoluteArcs_oidContent h0 h1 hroot, dottedArcs]
  · -- the hexadecimal form holds a space between each two octets, the dotted form none
    simp only [hbits, iff_false]
    intro heq
    have hcount := congrArg (fun s : String => s.data.count ' ') heq
    simp only [dottedArcs] at hcount
    rw [count_intercalate, count_intercalate] at hcount
    · have hrest : rest.flatMap arcOctets ≠ [] := fun h => hbits (by simp [h, maxArcBits])
      have hlen := List.length_pos.2 hrest
      have hspace : (" ".data).count ' ' = 1 := rfl
      have hdot : (".".data).count ' ' = 0 := rfl
      simp only [List.length_map, oidContent, List.length_cons, hspace, hdot, Nat.mul_one,
        Nat.mul_zero] at hcount
      omega
    · intro a ha
      obtain ⟨n, -, rfl⟩ := List.mem_map.1 ha
      exact not_mem_toString_nat (.inr rfl) n
    · intro a ha
      obtain ⟨b, -, rfl⟩ := List.mem_map.1 ha
      exact not_mem_hexByte (.inr rfl) b

/-- The OBJECT IDENTIFIER branch renders the octets `oid()` hands over. -/
theorem stringifyAsnValue_oid (lib : Asn1Rs) (data : List UInt8) :
    stringifyAsnValue lib ⟨Tag.oid, data⟩ =
      some (renderOr (lib.oid ⟨Tag.oid, data⟩) formatOid) := rfl

/-- For every library model, an OBJECT IDENTIFIER whose first two arcs fit the first octet (all of
`0.x` and `1.x`, and `2.0` to `2.39`), `0.0` apart, is printed in dotted decimal exactly when
`oid()` accepts its content and every further arc is below `2 ^ 63`. Otherwise it is refused
when `oid()` refuses it, and printed as its content octets in `{:02x}` joined by spaces when an
arc is past `2 ^ 63`. -/
theorem oid_value_dotted_iff (a0 a1 : Nat) (rest : List Nat) (h0 : a0 < 3) (h1 : a1 < 40)
    (hroot : ¬(a0 = 0 ∧ a1 = 0 ∧ rest = [])) (lib : Asn1Rs) :
    (stringifyAsnValue lib ⟨Tag.oid, oidContent a0 a1 rest⟩ =
        some (.ok (dottedArcs (a0 :: a1 :: rest))) ↔
      (∀ n ∈ rest, n < 2 ^ 63) ∧
        ∃ bytes, lib.oid ⟨Tag.oid, oidContent a0 a1 rest⟩ = .ok bytes) ∧
    (∀ err, lib.oid ⟨Tag.oid, oidContent a0 a1 rest⟩ = .error err →
      stringifyAsnValue lib ⟨Tag.oid, oidContent a0 a1 rest⟩ = some (.error conversionError)) ∧
    ∀ bytes, lib.oid ⟨Tag.oid, oidContent a0 a1 rest⟩ = .ok bytes → ¬(∀ n ∈ rest, n < 2 ^ 63) →
      stringifyAsnValue lib ⟨Tag.oid, oidContent a0 a1 rest⟩ =
        some (.ok (" ".intercalate ((oidContent a0 a1 rest).map fun b => ⟨hexByte b⟩))) := by
  rw [stringifyAsnValue_oid]
  cases hoid : lib.oid ⟨Tag.oid, oidContent a0 a1 rest⟩ with
  | error => simp [renderOr]
  | ok bytes =>
    obtain rfl := lib.oid_data _ bytes hoid
    refine ⟨by simp [renderOr, formatOid_oidContent_iff h0 h1 hroot], nofun,
      fun _ _ hbig => ?_⟩
    -- past `2 ^ 63`, `Oid::iter` refuses the arcs and the octets are printed
    rw [← maxArcBits_flatMap_arcOctets_le_iff] at hbig
    exact congrArg (some ∘ Except.ok) (if_neg hbig)

/-- `rsaEncryption`, `1.2.840.113549.1.1.1`, at `contentLib`. -/
theorem oid_value_dotted_rsaEncryption :
    1 < 3 ∧ 2 < 40 ∧ ¬(1 = 0 ∧ 2 = 0 ∧ [840, 113549, 1, 1, 1] = ([] : List Nat)) ∧
    stringifyAsnValue contentLib ⟨Tag.oid, oidContent 1 2 [840, 113549, 1, 1, 1]⟩ =
      some (.ok (dottedArcs [1, 2, 840, 113549, 1, 1, 1])) :=
  ⟨by decide, by decide, by decide,
    (oid_value_dotted_iff 1 2 [840, 113549, 1, 1, 1] (by decide) (by decide) (by decide)
      contentLib).1.2 ⟨by decide, _, rfl⟩⟩


end Asn

end Trust0
