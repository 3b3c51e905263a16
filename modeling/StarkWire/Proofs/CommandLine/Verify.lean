/-
# Verification on the command line

No hex text looks like an option, so the texts of a key, a hash, `r` and `s` can be given to the
command after its options (`parse_verifyWords`).  There `s` is taken modulo the field prime and
inverted modulo the order; the bridge inverts it back, which leaves it reduced modulo the order.
Whether the inverse is in range `Ecdsa.verify` looks at as well, so the verdict is its verdict on
the reduced `s` (`accepts_iff`).

An `s` below the order is not changed by that.  But the prime is above the order: an `s` between the
two is out of range, and yet it is reduced to a small one, which may be accepted.
-/

import StarkWire.CommandLine.Execute
import StarkWire.Proofs.Bridge.Production
import StarkWire.Proofs.U256.Hex

namespace StarkWire
namespace CommandLine

/-! ### The command -/

/-- Whether the command finds that `(r, s)` signs `z` for the public key `q`. -/
def accepts (q z r s : U256) : Bool :=
  match Scalar.invertModOrder s with
  | some w => (Bridge.verify Production.primitives q.encode.toList z.encode.toList
      r.encode.toList w.encode.toList ()).answer
  | none => false

/-- The command accepts what `Ecdsa.verify` accepts with `s` reduced. -/
theorem accepts_iff {q z r s : U256} :
    accepts q z r s = true
      ↔ Ecdsa.verify (.ofU256 q) (.ofU256 z) (.ofU256 r)
          (.ofNat ((Fp.ofU256 s).val % Scalar.order)) = .value true := by
  unfold accepts Scalar.invertModOrder
  rcases hw : Scalar.inverse? (.ofU256 s) with _ | w
  · refine iff_of_false (by simp) fun hv => ?_
    obtain ⟨-, u, hu, -⟩ := Ecdsa.range_of_verify hv
    rw [Scalar.val_ofNat_mod] at hu
    rw [Scalar.inverse?_eq_some_of_mod hu] at hw
    cases hw
  · dsimp only [Option.map_some]
    rw [Bridge.verify_encode_eq_true_iff, Fp.ofU256_toU256, Production.verify_eq_true_iff hw]

variable {key hash r s : String} {q z a b : U256}

/-- A hex text is read as its value. -/
theorem readText_eq {name text : String} (h : U256.ofHex text = .ok a) :
    readText name text = .ok a := by
  rw [readText, h]

/-- A hex text is read as the encoding of its value. -/
theorem readWire_eq {name text : String} (h : U256.ofHex text = .ok a) :
    readWire name text = .ok a.encode.toList := by
  rw [readWire, readText_eq h]
  rfl

/-- On four hex texts the report is the verdict. -/
theorem report_verify (hq : U256.ofHex key = .ok q) (hz : U256.ofHex hash = .ok z)
    (ha : U256.ofHex r = .ok a) (hb : U256.ofHex s = .ok b) :
    (Command.verify key hash r s).report = .ok (.verdict (accepts q z a b)) := by
  simp only [Command.report, Command.run, Command.action, readWire_eq hq, readWire_eq hz,
    readWire_eq ha, readText_eq hb, accepts, bind, Except.bind]
  cases Scalar.invertModOrder b <;> rfl

/-! ### The words -/

/-- A text that is read as hex is no option. -/
theorem Word.ofString_of_ofHex {text : String} (h : U256.ofHex text = .ok a) :
    ofString text = .operand := by
  have hhead := U256.head?_ne_hyphen_of_ofHex h
  unfold ofString
  split <;> simp_all

/-- The words that ask for a verification. -/
def verifyWords (key hash r s : String) : List String :=
  ["verify", "-p", key, "-m", hash, "-r", r, "-s", s]

/-- An option by its letter and then its value. -/
theorem scan_option {options : List OptionName} {word value : String} {letter : Char}
    {o : OptionName} {rest : List String} (hw : Word.ofString word = .short letter none)
    (ho : findOption options (.short letter none) = .ok (o, none))
    (hv : Word.ofString value = .operand) :
    scan options (word :: value :: rest) = (scan options rest).push (.option o value) := by
  rw [scan, hw]
  simp only [ho, hv, if_true]

/-- The options of the command in order. -/
theorem scan_verifyWords (hkey : Word.ofString key = .operand)
    (hhash : Word.ofString hash = .operand) (hr : Word.ofString r = .operand)
    (hs : Word.ofString s = .operand) :
    scan [formatOption, publicKeyOption, hashOption, rOption, sOption]
        ["-p", key, "-m", hash, "-r", r, "-s", s]
      = ⟨[.option publicKeyOption key, .option hashOption hash, .option rOption r,
          .option sOption s], none⟩ := by
  rw [scan_option (o := publicKeyOption) rfl rfl hkey,
    scan_option (o := hashOption) rfl rfl hhash, scan_option (o := rOption) rfl rfl hr,
    scan_option (o := sOption) rfl rfl hs]
  rfl

/-- The words for a verification are parsed as that command. -/
theorem parse_verifyWords (hkey : Word.ofString key = .operand)
    (hhash : Word.ofString hash = .operand) (hr : Word.ofString r = .operand)
    (hs : Word.ofString s = .operand) :
    parse (verifyWords key hash r s) = .ok ⟨.text, .verify key hash r s⟩ := by
  have hname : Word.ofString "verify" = .operand := rfl
  have hscan := scan_verifyWords hkey hhash hr hs
  rw [verifyWords, parse, parseFrom, hname]
  dsimp only
  rw [parseCommand, if_neg (by decide)]
  simp only [Reading.ofName, Reading.allOptions, hscan]
  rfl

/-! ### A signature under the key 1 -/

/-- The abscissa of the generator, which is the public key of 1 and the `r` of the nonce 1. -/
def baseText : String := "0x1ef15c18599971b7beced415a40f0c7deacfd9b0d1819e03d723d8bc943cfca"

/-- The hash that has `s = 1` in its signature under the key 1 with the nonce 1. -/
def unitHash : U256 := .ofNat 0x610ea3e7a6668f5841312bea5bf0f37d8d414d2bdcf9851e0f464b5e4827d66

/-- Its text. -/
def unitText : String := "0x610ea3e7a6668f5841312bea5bf0f37d8d414d2bdcf9851e0f464b5e4827d66"

/-- The text of the generator is read as its abscissa. -/
theorem ofHex_baseText : U256.ofHex baseText = .ok Bridge.baseX.toU256 := by cbv

/-- The text of the hash is read as the hash. -/
theorem ofHex_unitText : U256.ofHex unitText = .ok unitHash := by cbv

/-- With `s = 1` the hash is signed, the generator being both the key and the point of the nonce. -/
theorem verify_unit :
    Ecdsa.verify Bridge.baseX (.ofU256 unitHash) Bridge.baseX (.ofNat 1) = .value true := by
  have h : Ecdsa.IsSignature 1 (Fp.ofU256 unitHash).val 1 Bridge.baseX (Fp.ofNat 1).val :=
    ⟨by decide +kernel, by decide +kernel, by decide +kernel, by decide +kernel,
      by decide +kernel⟩
  rw [Ecdsa.verify_of_isSignature h (w := 1) (by decide +kernel) (by decide +kernel)
    (by decide), if_neg]
  rintro ⟨-, hm⟩
  exact absurd hm (by decide +kernel)

/-! ### The verdict -/

/-- In whatever words the four texts are given, the command line prints the verdict `valid`, and
there are words that give them. -/
structure Prints (elapsed : Elapsed) (key hash r s : String) (valid : Bool) : Prop where
  asked : parse (verifyWords key hash r s) = .ok ⟨.text, .verify key hash r s⟩
  printed (words : List String) (h : parse words = .ok ⟨.text, .verify key hash r s⟩) :
    respond elapsed words = if valid then ⟨0, ["VALID"], []⟩ else ⟨1, ["INVALID"], []⟩
  exits (words : List String) (format : Format)
    (h : parse words = .ok ⟨format, .verify key hash r s⟩) :
    (respond elapsed words).code = if valid then 0 else 1

/-- On four hex texts the command line prints the verdict. -/
theorem prints_accepts (hq : U256.ofHex key = .ok q) (hz : U256.ofHex hash = .ok z)
    (ha : U256.ofHex r = .ok a) (hb : U256.ofHex s = .ok b) (elapsed : Elapsed) :
    Prints elapsed key hash r s (accepts q z a b) where
  asked := parse_verifyWords (Word.ofString_of_ofHex hq) (Word.ofString_of_ofHex hz)
    (Word.ofString_of_ofHex ha) (Word.ofString_of_ofHex hb)
  printed words h := by
    simp only [respond, h, report_verify hq hz ha hb, present]
    cases accepts q z a b <;> rfl
  exits words format h := by
    simp only [respond, h, report_verify hq hz ha hb, present]
    cases format <;> cases accepts q z a b <;> rfl

/-- **The verdict on a conventional signature.**  It is that of `Ecdsa.verify` with `s` reduced
modulo the prime and then modulo the order.  With `s` reduced modulo the prime alone the verdict is
the same, except where it is favourable and `s` is not below the order then. -/
theorem verdict_on_conventional_signature (hq : U256.ofHex key = .ok q)
    (hz : U256.ofHex hash = .ok z) (ha : U256.ofHex r = .ok a) (hb : U256.ofHex s = .ok b)
    (elapsed : Elapsed) :
    ∃ valid : Bool, Prints elapsed key hash r s valid ∧
      (valid = true ↔ Ecdsa.verify (.ofU256 q) (.ofU256 z) (.ofU256 a)
        (.ofNat ((Fp.ofU256 b).val % Scalar.order)) = .value true) ∧
      ((valid = true ↔
          Ecdsa.verify (.ofU256 q) (.ofU256 z) (.ofU256 a) (.ofU256 b) = .value true)
        ↔ ¬ (valid = true ∧ Scalar.order ≤ (Fp.ofU256 b).val)) := by
  refine ⟨accepts q z a b, prints_accepts hq hz ha hb elapsed, accepts_iff, ?_⟩
  rw [Ecdsa.verify_eq_true_iff_mod, ← accepts_iff, ← Nat.not_lt]
  tauto

/-- The signature with `s = 1` is found valid. -/
theorem verdict_on_unit_signature :
    (U256.ofHex baseText = .ok Bridge.baseX.toU256 ∧ U256.ofHex unitText = .ok unitHash ∧
      U256.ofHex "0x1" = .ok (.ofNat 1)) ∧
    respond ⟨0, ""⟩ (verifyWords baseText unitText baseText "0x1") = ⟨0, ["VALID"], []⟩ := by
  have hone : U256.ofHex "0x1" = .ok (.ofNat 1) := by cbv
  obtain ⟨valid, hp, hv, -⟩ :=
    verdict_on_conventional_signature ofHex_baseText ofHex_unitText ofHex_baseText hone ⟨0, ""⟩
  have hval : (Fp.ofU256 (.ofNat 1)).val % Scalar.order = 1 := by decide +kernel
  rw [hval, Fp.ofU256_toU256] at hv
  obtain rfl : valid = true := hv.2 verify_unit
  exact ⟨⟨ofHex_baseText, ofHex_unitText, hone⟩, hp.printed _ hp.asked⟩

/-- The number `n + 1` in place of 1. -/
def aboveText : String := "0x800000000000010ffffffffffffffffb781126dcae7b2321e66a241adc64d30"

/-- **An `s` above the order.**  It is out of range, and found valid. -/
theorem above_order_accepted :
    (U256.ofHex baseText = .ok Bridge.baseX.toU256 ∧ U256.ofHex unitText = .ok unitHash ∧
      U256.ofHex aboveText = .ok (.ofNat (Scalar.order + 1))) ∧
    respond ⟨0, ""⟩ (verifyWords baseText unitText baseText aboveText) = ⟨0, ["VALID"], []⟩ ∧
    Ecdsa.verify (.ofU256 Bridge.baseX.toU256) (.ofU256 unitHash) (.ofU256 Bridge.baseX.toU256)
      (.ofU256 (.ofNat (Scalar.order + 1))) = .fault ⟨"verify", "Invalid s"⟩ := by
  have habove : U256.ofHex aboveText = .ok (.ofNat (Scalar.order + 1)) := by cbv
  have hp := prints_accepts ofHex_baseText ofHex_unitText ofHex_baseText habove ⟨0, ""⟩
  have hval : (Fp.ofU256 (.ofNat (Scalar.order + 1))).val % Scalar.order = 1 := by decide +kernel
  have hacc : accepts Bridge.baseX.toU256 unitHash Bridge.baseX.toU256
      (.ofNat (Scalar.order + 1)) = true := by
    rw [accepts_iff, hval, Fp.ofU256_toU256]
    exact verify_unit
  refine ⟨⟨ofHex_baseText, ofHex_unitText, habove⟩, ?_, ?_⟩
  · rw [hp.printed _ hp.asked, hacc]
    rfl
  · rw [Ecdsa.verify, if_neg (by decide +kernel), if_neg (by decide +kernel),
      if_pos (by decide +kernel)]
    rfl

end CommandLine
end StarkWire
