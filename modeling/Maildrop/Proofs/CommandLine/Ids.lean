import Maildrop.Proofs.CommandLine.Keeping

/-!
# Ids that are printed

An ingestion prints the id of its message, and whoever reads it hands it in again with other
commands, where it is checked before anything is looked up. What is printed always passes
(`Maildrop.CommandLine.ids_faithful`): it is the digest of the octets in the URL-safe base64
form, so it has the form of an id, and it says of which digest it is.
-/

namespace Maildrop.CommandLine

/-- **Ids are faithful.** The id of a content has forty-three letters of the URL-safe alphabet, and
is accepted as an id. Read as base64 it is the digest of the content, of thirty-two octets; the last
letter is filled up with two zero bits. So contents have the same id if and only if they have the
same digest, and what an ingestion prints passes for an id with every command. -/
theorem ids_faithful :
    (∀ raw : Bytes,
      let id := MessageId.ofContent raw
      id.toList.length = 43 ∧ (∀ c ∈ id.toList, c ∈ Base64Url.alphabet) ∧ MessageId.isValid id ∧
        (Sha256.digest raw).length = 32 ∧
        Base64Url.decode? id.toList = some (Sha256.digest raw) ∧
        Base64Url.numeral 64 (Base64Url.sextets id.toList) =
          4 * Base64Url.numeral 256 ((Sha256.digest raw).map UInt8.toNat)) ∧
    (∀ x y, MessageId.ofContent x = MessageId.ofContent y ↔ Sha256.digest x = Sha256.digest y) ∧
    ∀ (t : Turn) i sender file d, t.Asks i → i.command = .onStore (.ingest sender file) →
      (t.play d).1.code = 0 →
        ∃ id, (t.play d).1.output = octets (line id) ∧ messageId id = pure id := by
  refine ⟨fun raw => ?_, MessageId.ofContent_eq_iff, ?_⟩
  · have hletters : (MessageId.ofContent raw).toList = Base64Url.encode (Sha256.digest raw) :=
      String.toList_ofList
    refine ⟨?_, ?_, MessageId.isValid_ofContent raw, Sha256.length_digest raw, ?_,
      MessageId.numeral_ofContent raw⟩
    · rw [hletters, Base64Url.length_encode, Sha256.length_digest]
    · rw [hletters]
      exact fun c hc => Base64Url.mem_alphabet_of_mem_encode hc
    · rw [hletters, Base64Url.decode?_encode]
  · intro t i sender file d ht hi hcode
    obtain ⟨-, -, -, raw, -, -, -, -, hreport, -⟩ := Turn.exists_of_ingest ht hi hcode
    refine ⟨MessageId.ofContent raw, by rw [hreport], ?_⟩
    rw [messageId, if_pos (MessageId.isValid_ofContent raw)]

/-- What an ingestion into a new database prints passes for an id. -/
theorem ids_faithful_printed :
    let t : Turn :=
      { style := .calendar, environment := ⟨"/c", none, {}⟩, input := octets "To: c\n\nd"
        arguments := ["--database", "m", "ingest", "--from", "a@b"] }
    ∃ id, (t.play {}).1.output = octets (line id) ∧ messageId id = pure id := by
  intro t
  have ht : t.Asks ⟨none, some "m", .onStore (.ingest "a@b" none)⟩ := by
    rw [Turn.Asks]
    decide +kernel
  exact ids_faithful.2.2 t _ "a@b" none {} ht rfl (by decide +kernel)

end Maildrop.CommandLine
