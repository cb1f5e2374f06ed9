import WalletResponder.Proofs.Json.Texts
import WalletResponder.Proofs.Wallet.Settings

/-!
# Configurations that were read

A configuration comes of texts that are laid over the standard one (`WalletConfig.IsRead`). Its own
strings can then be written, and its signer lists nothing that the key in the file does not serve
(`WalletConfig.IsRead.isWritable`, `WalletConfig.IsRead.signer_ofFile`).
-/

namespace WalletResponder

/-- A signer is made of the private key in a file. -/
def Signer.IsOfFile (files : Files) (signer : Signer) : Prop :=
  ∃ path key handle keyId, files.key path = .ok key ∧
    Signer.ofKey handle (some key) keyId = .ok signer

namespace WalletConfig

/-- A configuration that came of texts, one laid over the other. -/
inductive IsRead (files : Files) : WalletConfig → Prop
  | standard : IsRead files .standard
  | overlay {base config : WalletConfig} {text : Bytes} {j : Json} : IsRead files base →
      Json.parse? text = some j → WalletConfig.overlay files j base = .ok config →
      IsRead files config

/-- What the wallet adds to claims and headers of its own is text. -/
structure IsWritable (config : WalletConfig) : Prop where
  issuer : ∀ s ∈ config.issuer, Utf8.valid s = true
  cancelled : Utf8.valid config.cancelled = true
  keyId : ∀ s ∈ config.jarm.signing, Utf8.valid s.signer.keyId = true

variable {files : Files} {config : WalletConfig}

theorem IsRead.isWritable (h : IsRead files config) : config.IsWritable := by
  induction h with
  | standard => exact ⟨fun _ h => (nomatch h), by decide, fun _ h => (nomatch h)⟩
  | overlay _ hparse hover ih =>
    have htext := Json.isText_of_parse? hparse
    have hlaid := overlay_eq_ok.mp hover
    refine ⟨?_, ?_, ?_⟩
    · rcases hlaid.issuer.kept_or with h | ⟨v, hv, s, rfl, h⟩
      · rw [h]; exact ih.issuer
      · rw [← h]
        rintro _ ⟨⟩
        exact Json.isText_of_find? htext hv
    · rcases hlaid.cancelled.kept_or with h | ⟨v, hv, rfl⟩
      · rw [h]; exact ih.cancelled
      · exact Json.isText_of_find? htext hv
    · rcases hlaid.signing with h | ⟨jarm, hjarm, v, hv, s, hs, h⟩
      · rw [h]; exact ih.keyId
      · rw [← h]
        rintro _ ⟨⟩
        have hv := Json.isText_of_find? (Json.isText_of_find? htext hjarm) hv
        exact Json.isText_of_find? hv hs.keyId

/-- **The wallet's signer is made of the key in a file.** -/
theorem IsRead.signer_ofFile (h : IsRead files config) :
    ∀ s ∈ config.jarm.signing, s.signer.IsOfFile files := by
  induction h with
  | standard => exact fun _ h => nomatch h
  | overlay _ _ hover ih =>
    rcases (overlay_eq_ok.mp hover).signing with h | ⟨_, _, _, _, s, hs, h⟩
    · rw [h]; exact ih
    · rw [← h]
      rintro _ ⟨⟩
      obtain ⟨path, key, -, hkey, hsigner⟩ := hs.signer
      exact ⟨path, key, 0, s.signer.keyId, hkey, hsigner⟩

end WalletConfig
end WalletResponder
