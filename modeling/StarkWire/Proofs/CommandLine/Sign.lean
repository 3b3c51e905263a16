/-
# Signing on the command line

The command prints a signature in the conventional form, with `s` the inverse modulo the order of
the `w` on the wire.  Whatever the bridge signs has such a `w`: it was made as the inverse of a
scalar `s`, so the command never misses an inverse (`report_sign`).

All that is printed is canonical.  A verification that is given the printed `r` and `s` reads them
back as they were, inverts `s`, which is below the order, and so puts the very bytes to the bridge
that the bridge gave when it signed (`sign_then_verify`).
-/

import StarkWire.Proofs.Bridge.RoundTrip
import StarkWire.Proofs.CommandLine.Verify
import StarkWire.Proofs.Json.StringValues

namespace StarkWire

/-- What is signed has a `w` that is inverted to some `s`, and this to `w` again. -/
theorem Production.exists_inverse_of_sign {d m k r w : Fp} (h : sign d m k = .value (r, w)) :
    ∃ s : Fp, Scalar.inverse? w = some s ∧ Scalar.inverse? s = some w := by
  obtain ⟨s, hsig, hw⟩ := sign_eq_value_iff.1 h
  have hsw := Scalar.inverse?_inverse? hw
  rw [Nat.mod_eq_of_lt hsig.s_lt_order, Fp.ofNat_val] at hsw
  exact ⟨s, hsw, hw⟩

namespace CommandLine

open Json (Document stringValues)

/-! ### What the bridge signs -/

/-- The texts are read, and the bridge answers with the wire bytes of a signature. -/
def Signs (privateKey hash : String) (k : Option String) (wire : Bytes 64) : Prop :=
  ∃ d m, U256.ofHex privateKey = .ok d ∧ U256.ofHex hash = .ok m ∧
    match k with
    | some k => ∃ nonce, U256.ofHex k = .ok nonce ∧
        (Bridge.sign Production.primitives d.encode.toList m.encode.toList nonce.encode.toList
          ()).answer = .ok wire
    | none =>
        (Bridge.signDeterministic Production.primitives d.encode.toList m.encode.toList none
          ()).answer = .ok wire

variable {privateKey hash : String} {k : Option String} {wire : Bytes 64}

/-- The signature and the inverse of its `w`. -/
theorem Signs.exists_inverse (h : Signs privateKey hash k wire) :
    ∃ r w s : Fp, wire = Signature.encode ⟨r.toU256, w.toU256⟩ ∧ Scalar.inverse? w = some s ∧
      Scalar.inverse? s = some w := by
  obtain ⟨d, m, -, -, hk⟩ := h
  have hsigned : Bridge.Signed d.encode m.encode wire := by
    cases k with
    | some k =>
      obtain ⟨nonce, -, ha⟩ := hk
      exact .inl ⟨nonce.encode, ha⟩
    | none => exact .inr ⟨none, hk⟩
  obtain ⟨nonce, r, w, hs, rfl⟩ := hsigned.exists_sign
  obtain ⟨s, hsw, hws⟩ := Production.exists_inverse_of_sign hs
  refine ⟨r, w, s, ?_, hsw, hws⟩
  rw [← Bridge.wireSignature_eq_wirePair]
  rfl

/-! ### The command -/

/-- A text that is no hex text is named in the failure. -/
theorem readText_eq_error {name text : String} {e : HexError} (h : U256.ofHex text = .error e) :
    readText name text = .error (.ofHexError ("Invalid " ++ name ++ ": " ++ text) e) := by
  rw [readText, h]

/-- A text that is no hex text is named in the failure before there are bytes. -/
theorem readWire_eq_error {name text : String} {e : HexError} (h : U256.ofHex text = .error e) :
    readWire name text = .error (.ofHexError ("Invalid " ++ name ++ ": " ++ text) e) := by
  rw [readWire, readText_eq_error h]
  rfl

/-- How the command ends: a text is no hex text, the bridge does not sign, or there is a signature
with its `s`. -/
inductive SignEnding (privateKey hash : String) (k : Option String) :
    Except Failure Report → Prop
  | unread (name text : String) (e : HexError) :
    SignEnding privateKey hash k (.error (.ofHexError ("Invalid " ++ name ++ ": " ++ text) e))
  | unsigned (e : Bridge.Error) :
    SignEnding privateKey hash k (.error (.ofError "Failed to sign" e))
  | signed {r w s : Fp} (signs : Signs privateKey hash k (Signature.encode ⟨r.toU256, w.toU256⟩))
    (inverse_w : Scalar.inverse? w = some s) (inverse_s : Scalar.inverse? s = some w) :
    SignEnding privateKey hash k
      (.ok (.signature (Signature.encode ⟨r.toU256, w.toU256⟩) s.toU256))

/-- A signature is reported with the inverse of its `w`. -/
theorem signatureReport_encode {r w s : Fp} (h : Scalar.inverse? w = some s) :
    signatureReport (.ok (Signature.encode ⟨r.toU256, w.toU256⟩))
      = .ok (.signature (Signature.encode ⟨r.toU256, w.toU256⟩) s.toU256) := by
  simp only [signatureReport, reportAnswer, Signature.decode_encode,
    Scalar.invertModOrder_toU256 h]

/-- What the command reports of an answer of the bridge. -/
theorem SignEnding.of_answer {answer : Except Bridge.Error (Bytes 64)}
    (h : ∀ wire, answer = .ok wire → Signs privateKey hash k wire) :
    SignEnding privateKey hash k (signatureReport answer) := by
  rcases answer with e | wire
  · exact .unsigned e
  · have hsigns := h wire rfl
    obtain ⟨r, w, s, rfl, hw, hs⟩ := hsigns.exists_inverse
    rw [signatureReport_encode hw]
    exact .signed hsigns hw hs

/-- The report of a signature without a nonce. -/
theorem report_sign_none {d m : U256} (hd : U256.ofHex privateKey = .ok d)
    (hm : U256.ofHex hash = .ok m) :
    (Command.sign privateKey hash none).report
      = signatureReport (Bridge.signDeterministic Production.primitives d.encode.toList
          m.encode.toList none ()).answer := by
  simp only [Command.report, Command.run, Command.action, readWire_eq hd, readWire_eq hm, bind,
    Except.bind, pure, Except.pure, Bridge.Run.answer_map]

/-- The report of a signature with a nonce. -/
theorem report_sign_some {d m nonce : U256} {k : String} (hd : U256.ofHex privateKey = .ok d)
    (hm : U256.ofHex hash = .ok m) (hk : U256.ofHex k = .ok nonce) :
    (Command.sign privateKey hash (some k)).report
      = signatureReport (Bridge.sign Production.primitives d.encode.toList m.encode.toList
          nonce.encode.toList ()).answer := by
  simp only [Command.report, Command.run, Command.action, readWire_eq hd, readWire_eq hm,
    readWire_eq hk, bind, Except.bind, pure, Except.pure, Bridge.Run.answer_map]

/-- **The command ends in one of the three ways.** -/
theorem report_sign (privateKey hash : String) (k : Option String) :
    SignEnding privateKey hash k (Command.sign privateKey hash k).report := by
  rcases hd : U256.ofHex privateKey with e | d
  · simp only [Command.report, Command.run, Command.action, readWire_eq_error hd, bind,
      Except.bind]
    exact .unread _ _ e
  rcases hm : U256.ofHex hash with e | m
  · simp only [Command.report, Command.run, Command.action, readWire_eq hd, readWire_eq_error hm,
      bind, Except.bind]
    exact .unread _ _ e
  cases k with
  | none =>
    rw [report_sign_none hd hm]
    exact .of_answer fun wire ha => ⟨d, m, hd, hm, ha⟩
  | some k =>
    rcases hk : U256.ofHex k with e | nonce
    · simp only [Command.report, Command.run, Command.action, readWire_eq hd, readWire_eq hm,
        readWire_eq_error hk, bind, Except.bind]
      exact .unread _ _ e
    · rw [report_sign_some hd hm hk]
      exact .of_answer fun wire ha => ⟨d, m, hd, hm, nonce, hk, ha⟩

/-- Where the bridge signs, the report is that of its signature. -/
theorem report_of_signs (h : Signs privateKey hash k wire) :
    (Command.sign privateKey hash k).report = signatureReport (.ok wire) := by
  obtain ⟨d, m, hd, hm, hk⟩ := h
  cases k with
  | none => rw [report_sign_none hd hm, hk]
  | some k =>
    obtain ⟨nonce, hnonce, ha⟩ := hk
    rw [report_sign_some hd hm hnonce, ha]

/-! ### What is printed -/

/-- What is printed of the signature `r`, `w` with the inverse `s` of `w`. -/
def signatureOutput (format : Format) (r w s : U256) : Output :=
  match format with
  | .text => ⟨0, ["r: " ++ r.toHex, "s: " ++ s.toHex, "w: " ++ w.toHex], []⟩
  | .json =>
    let wire := (r.encode.toList ++ w.encode.toList).flatMap hexPair
    ⟨0, [(Document.object [("r", .text r.toHex), ("w", .text w.toHex), ("s", .text s.toHex),
      ("wire_hex", .text (String.ofList wire))]).pretty], []⟩

/-- A report of a signature prints its three numbers and, in JSON, its bytes. -/
theorem output_signature (format : Format) (elapsed : Elapsed) (r w s : U256) :
    (Report.signature (Signature.encode ⟨r, w⟩) s).output format elapsed
      = signatureOutput format r w s := by
  cases format with
  | text => simp only [Report.output, Report.lines, Report.code, Report.remarks,
      Signature.decode_encode, signatureOutput]
  | json =>
    simp only [Report.output, Report.document, Report.code, Signature.decode_encode,
      hexOfBytes_eq]
    rfl

/-- What is printed as JSON is read as the texts of `r`, `w` and `s`, and the digits of the bytes of
`r` and then of `w`. -/
theorem stringValues_signatureOutput (r w s : U256) :
    ((signatureOutput .json r w s).out.flatMap fun line =>
        (stringValues line.toList).map String.ofList)
      = [r.toHex, w.toHex, s.toHex,
          String.ofList ((r.encode.toList ++ w.encode.toList).flatMap hexPair)] := by
  simp [signatureOutput, Document.stringValues_pretty, Document.texts, Document.memberTexts]

/-- The message for a `w` without an inverse. -/
def uninvertible : String := "Error: Signature has no invertible w"

/-- The message about a text that is no hex text is another one. -/
theorem error_invalid_ne_uninvertible (name text : String) :
    "Error: " ++ ("Invalid " ++ name ++ ": " ++ text) ≠ uninvertible := by
  intro h
  have hchar := congrArg (fun line => line.toList[7]?) h
  simp [uninvertible] at hchar

/-! ### What is verified -/

/-- A verification asks the bridge about the four values with `s` inverted. -/
theorem run_verify {key message r s : String} {q z a b w : U256} (hq : U256.ofHex key = .ok q)
    (hz : U256.ofHex message = .ok z) (ha : U256.ofHex r = .ok a) (hb : U256.ofHex s = .ok b)
    (hw : Scalar.invertModOrder b = some w) {σ : Type} (P : Primitives σ) (state : σ) :
    (Command.verify key message r s).run P state
      = (Bridge.verify P q.encode.toList z.encode.toList a.encode.toList w.encode.toList
          state).map fun valid => .ok (.verdict valid) := by
  simp only [Command.run, Command.action, readWire_eq hq, readWire_eq hz, readWire_eq ha,
    readText_eq hb, hw, bind, Except.bind]
  rfl

/-- The bridge signs with `r` and `w`; what is printed is these and the inverse `s` of `w`; and
where `r` and `s` are put in as they are printed, the bridge is asked about `r` and `w`. -/
structure CarriesSignature (privateKey hash : String) (k : Option String) (format : Format)
    (printed : Output) (r w s : U256) : Prop where
  signs : Signs privateKey hash k (Signature.encode ⟨r, w⟩)
  printed_eq : printed = signatureOutput format r w s
  values_eq (hformat : format = .json) :
    (printed.out.flatMap fun line => (stringValues line.toList).map String.ofList)
      = [r.toHex, w.toHex, s.toHex,
          String.ofList ((r.encode.toList ++ w.encode.toList).flatMap hexPair)]
  s_range : 0 < s.toNat ∧ s.toNat < Scalar.order
  w_range : 0 < w.toNat ∧ w.toNat < Scalar.order
  inverse : s.toNat * w.toNat ≡ 1 [MOD Scalar.order]
  asked {key message : String} {q z : U256} (hq : U256.ofHex key = .ok q)
    (hz : U256.ofHex message = .ok z) :
    parse (verifyWords key message r.toHex s.toHex)
      = .ok ⟨.text, .verify key message r.toHex s.toHex⟩
  verifies {key message : String} {q z : U256} (hq : U256.ofHex key = .ok q)
    (hz : U256.ofHex message = .ok z) {σ : Type} (P : Primitives σ) (state : σ) :
    (Command.verify key message r.toHex s.toHex).run P state
      = (Bridge.verify P q.encode.toList z.encode.toList r.encode.toList w.encode.toList
          state).map fun valid => .ok (.verdict valid)

/-- A command that carries a signature succeeds. -/
theorem CarriesSignature.code_eq {format : Format} {printed : Output} {r w s : U256}
    (h : CarriesSignature privateKey hash k format printed r w s) : printed.code = 0 := by
  rw [h.printed_eq]
  cases format <;> rfl

/-- A signature of the bridge is printed, and carried to a verification. -/
theorem carriesSignature_of_signs {format : Format} {r w s : Fp}
    (hsigns : Signs privateKey hash k (Signature.encode ⟨r.toU256, w.toU256⟩))
    (hsw : Scalar.inverse? w = some s) (hws : Scalar.inverse? s = some w) :
    CarriesSignature privateKey hash k format
      (signatureOutput format r.toU256 w.toU256 s.toU256) r.toU256 w.toU256 s.toU256 where
  signs := hsigns
  printed_eq := rfl
  values_eq hformat := by
    subst hformat
    exact stringValues_signatureOutput _ _ _
  s_range := by
    rw [Fp.toNat_toU256]
    exact Scalar.inverse?_range hsw
  w_range := by
    rw [Fp.toNat_toU256]
    exact Scalar.inverse?_range hws
  inverse := by
    rw [Fp.toNat_toU256, Fp.toNat_toU256]
    exact (Scalar.inverse?_eq_some_iff.1 hsw).2
  asked hq hz := parse_verifyWords (Word.ofString_of_ofHex hq) (Word.ofString_of_ofHex hz)
    (Word.ofString_of_ofHex (U256.ofHex_toHex _)) (Word.ofString_of_ofHex (U256.ofHex_toHex _))
  verifies hq hz _ P state := run_verify hq hz (U256.ofHex_toHex _) (U256.ofHex_toHex _)
    (Scalar.invertModOrder_toU256 hws) P state

/-- **Signing and then verifying.**  Signing never misses an inverse; and it succeeds just when
there is a signature, which is carried from the one command to the other. -/
theorem sign_then_verify (elapsed : Elapsed) {words : List String} {format : Format}
    (h : parse words = .ok ⟨format, .sign privateKey hash k⟩) :
    (respond elapsed words).err.head? ≠ some uninvertible ∧
    ((respond elapsed words).code = 0
      ↔ ∃ r w s, CarriesSignature privateKey hash k format (respond elapsed words) r w s) := by
  have hrespond : respond elapsed words
      = present format elapsed (Command.sign privateKey hash k).report := by
    rw [respond, h]
  have hending := report_sign privateKey hash k
  rw [hrespond]
  -- only the way in which the command ends matters from here on
  generalize (Command.sign privateKey hash k).report = report at hending ⊢
  cases hending with
  | unread name text e =>
    refine ⟨fun hhead => ?_, iff_of_false Nat.one_ne_zero ?_⟩
    · exact error_invalid_ne_uninvertible name text (Option.some.inj hhead)
    · rintro ⟨r, w, s, hc⟩
      exact Nat.one_ne_zero hc.code_eq
  | unsigned e =>
    refine ⟨fun hhead => ?_, iff_of_false Nat.one_ne_zero ?_⟩
    · exact absurd (Option.some.inj hhead) (by decide : "Error: Failed to sign" ≠ uninvertible)
    · rintro ⟨r, w, s, hc⟩
      exact Nat.one_ne_zero hc.code_eq
  | signed hsigns hsw hws =>
    rw [present, output_signature]
    have hc : CarriesSignature privateKey hash k format _ _ _ _ :=
      carriesSignature_of_signs hsigns hsw hws
    refine ⟨?_, iff_of_true hc.code_eq ⟨_, _, _, hc⟩⟩
    cases format <;> exact (Option.some_ne_none _).symm

/-- The words that ask for a signature with a nonce, as JSON. -/
def signWords (privateKey hash k : String) : List String :=
  ["sign", "--format", "json", "-p", privateKey, "-m", hash, "-k", k]

/-- The words for a signature with a nonce are parsed as that command. -/
theorem parse_signWords {privateKey hash k : String} (hkey : Word.ofString privateKey = .operand)
    (hhash : Word.ofString hash = .operand) (hk : Word.ofString k = .operand) :
    parse (signWords privateKey hash k) = .ok ⟨.json, .sign privateKey hash (some k)⟩ := by
  have hname : Word.ofString "sign" = .operand := rfl
  have hscan : scan [formatOption, privateKeyOption, hashOption, nonceOption]
        ["--format", "json", "-p", privateKey, "-m", hash, "-k", k]
      = ⟨[.option formatOption "json", .option privateKeyOption privateKey,
          .option hashOption hash, .option nonceOption k], none⟩ := by
    have hformat (rest : List String) :
        scan [formatOption, privateKeyOption, hashOption, nonceOption]
            ("--format" :: "json" :: rest)
          = (scan [formatOption, privateKeyOption, hashOption, nonceOption] rest).push
              (.option formatOption "json") := rfl
    rw [hformat, scan_option (o := privateKeyOption) rfl rfl hkey,
      scan_option (o := hashOption) rfl rfl hhash, scan_option (o := nonceOption) rfl rfl hk]
    rfl
  rw [signWords, parse, parseFrom, hname]
  dsimp only
  rw [parseCommand, if_neg (by decide)]
  simp only [Reading.ofName, Reading.allOptions, hscan]
  rfl

/-- The key 1 and the nonce 1 sign a hash with `w = 1`. -/
theorem signs_unit : Signs "0x1" unitText (some "0x1")
    (Signature.encode ⟨Bridge.baseX.toU256, (Fp.ofNat 1).toU256⟩) := by
  have hone : U256.ofHex "0x1" = .ok (.ofNat 1) := by cbv
  have hbytes : (U256.ofNat 1).encode = Bytes.ofValue 32 1 := by decide
  have hs := Bridge.sign_base (d := .ofValue 32 1) (m := unitHash.encode) (s := .ofNat 1)
    (w := .ofNat 1) (by decide +kernel) (by decide +kernel) (by decide +kernel)
    (by decide +kernel)
  refine ⟨.ofNat 1, unitHash, hone, ofHex_unitText, .ofNat 1, hone, ?_⟩
  rw [hbytes]
  exact Bridge.sign_eq_ok_iff.2 ⟨_, _, hs, rfl⟩

/-- That signature is printed, and carried. -/
theorem sign_then_verify_unit :
    parse (signWords "0x1" unitText "0x1") = .ok ⟨.json, .sign "0x1" unitText (some "0x1")⟩ ∧
    ∃ r w s, CarriesSignature "0x1" unitText (some "0x1") .json
      (respond ⟨0, ""⟩ (signWords "0x1" unitText "0x1")) r w s := by
  have hone : Word.ofString "0x1" = .operand := rfl
  have hparse := parse_signWords hone (Word.ofString_of_ofHex ofHex_unitText) hone
  refine ⟨hparse, (sign_then_verify ⟨0, ""⟩ hparse).2.1 ?_⟩
  have hinverse : Scalar.inverse? (.ofNat 1) = some (.ofNat 1) := by decide +kernel
  rw [respond, hparse]
  dsimp only
  rw [report_of_signs signs_unit, signatureReport_encode hinverse, present, output_signature]
  rfl

end CommandLine
end StarkWire
