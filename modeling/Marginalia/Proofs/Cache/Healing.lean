import Marginalia.Proofs.Cache.Capacity
import Marginalia.Proofs.Extraction.Schedule

/-!
# Broken entries heal

An entry of the cache is broken if its bytes cannot be read: because they end too
early, because they are something else altogether, or because they follow another
schema (`Payload.decode_of_schema_ne`).  A broken entry counts as missing.  So the file
is worked on as without a cache, and what is found out takes the place of the entry.

The new entry is made from the file alone.  If what is found out fits into the written
form, it is read back, and the next extraction of the file shows the same result from
the cache (`Options.extractFile_heals`).
-/

namespace Marginalia

set_option autoImplicit false

/-! ## Bytes of another schema -/

namespace Payload

/-- What can be read follows the current schema. -/
theorem schemaOf?_of_decode {s : Bytes} {p : Payload} (read : decode s = some p) :
    schemaOf? s = some schema := by
  simp only [decode, bind, Option.bind_eq_some_iff] at read
  obtain ⟨top, first, r, record, found, latest, _, -, _, -, _, -, _, -, _, -, read⟩ := read
  split at read
  next current =>
    simp only [schemaOf?, bind, first, Option.bind_some, record, latest, current]
  next => cases read

/-- **Bytes of another schema are not read**, whatever else they say. -/
theorem decode_of_schema_ne {s : Bytes} (other : schemaOf? s ≠ some schema) : decode s = none := by
  cases read : decode s with
  | none => rfl
  | some p => exact absurd (schemaOf?_of_decode read) other

end Payload

/-! ## Results and times -/

/-- A result without the times that it took. -/
def FileResult.untimed (r : FileResult) : FileResult := { r with timing := none }

namespace Options

variable {o : Options} {file : SourceFile} {cache : Cache}

/-- An entry that can be read is shown, and stays. -/
theorem extractFile_of_entry [GoParser] {p : Payload} (name : Bytes)
    (entry : cache.get? (file.key o) = some p) :
    (o.extractFile (some cache) name file).cache = some cache ∧
    (o.extractFile (some cache) name file).result.untimed
      = { (o.report file false [] p).untimed with cached := true } := by
  rw [SourceFile.key] at entry
  rw [extractFile, Option.bind_some, entry]
  exact ⟨rfl, rfl⟩

-- What is found out is a variable here, so that nothing tries to compute it.
/-- Without an entry that can be read the file is worked on, and what is found out is kept. -/
theorem extractFile_of_missing [GoParser] {p : Payload} (name : Bytes)
    (entry : cache.get? (file.key o) = none)
    (found : o.examine file = p) :
    (o.extractFile (some cache) name file).cache = some (cache.put (file.key o) p) ∧
    (o.extractFile (some cache) name file).result.untimed = (o.report file false [] p).untimed := by
  rw [SourceFile.key] at entry
  rw [extractFile, Option.bind_some, entry, found]
  exact ⟨rfl, rfl⟩

theorem extractFile_direct [GoParser] {p : Payload} (name : Bytes) (found : o.examine file = p) :
    (o.extractFile none name file).result.untimed = (o.report file false [] p).untimed := by
  rw [extractFile, Option.bind_none, found]
  rfl

/-- **Broken entries heal.**  If the entry of a file cannot be read, the result is the one without a
cache and is not marked as cached, and what is found out takes the place of the entry; no other entry
changes.  If that fits into the written form, the next extraction shows the same result from the cache
and leaves the cache as it is. -/
theorem extractFile_heals [GoParser] (o : Options) (name : Bytes) (file : SourceFile)
    (cache : Cache)
    (bytes : Bytes) (entry : cache.bytes? (file.key o) = some bytes)
    (broken : Payload.decode bytes = none) :
    ∃ healed, (o.extractFile (some cache) name file).cache = some healed ∧
      (o.extractFile (some cache) name file).result.untimed
        = (o.extractFile none name file).result.untimed ∧
      (o.extractFile (some cache) name file).result.cached = false ∧
      healed.bytes? (file.key o) = some (o.examine file).encode ∧
      (∀ key, key ≠ file.key o → healed.bytes? key = cache.bytes? key) ∧
      (o.Fits file →
        (o.extractFile (some healed) name file).cache = some healed ∧
        (o.extractFile (some healed) name file).result.untimed
          = { (o.extractFile none name file).result.untimed with cached := true }) := by
  have missing : cache.get? (file.key o) = none := by
    rw [Cache.get?, entry, Option.bind_some, broken]
  obtain ⟨p, found⟩ : ∃ p, o.examine file = p := ⟨_, rfl⟩
  obtain ⟨kept, result⟩ := extractFile_of_missing name missing found
  have direct := extractFile_direct name found
  have marked : (o.extractFile (some cache) name file).result.untimed.cached = false := by
    rw [result]
    rfl
  refine ⟨cache.put (file.key o) p, kept, result.trans direct.symm, marked, ?_, ?_, ?_⟩
  · rw [Cache.bytes?_put, if_pos rfl, found]
  · intro key other
    rw [Cache.bytes?_put, if_neg other.symm]
  · intro fits
    have readable := fits.decode_examine
    rw [found] at readable
    have healed : (cache.put (file.key o) p).get? (file.key o) = some p := by
      rw [Cache.get?, Cache.bytes?_put, if_pos rfl, Option.bind_some, readable]
    obtain ⟨stays, shown⟩ := extractFile_of_entry name healed
    exact ⟨stays, by rw [shown, direct]⟩

end Options

/-! ## An entry of another schema -/

/-- The bytes of a payload that names the next schema and nothing else. -/
def Payload.nextSchema : Bytes := MessagePack.map [("Schema", some (MessagePack.word 2))]

/-- A cache in which the entry for the call `Call.inOrder` follows another schema.  The second entry has
no key of a file. -/
def Cache.outdated : Cache where
  entries := [(Call.inOrder.key, Payload.nextSchema), ([], [1])]

theorem Payload.decode_nextSchema : decode nextSchema = none := by
  have other : schemaOf? nextSchema = some 2 := by decide +kernel
  exact decode_of_schema_ne (by rw [other]; decide)

theorem Call.key_ne_nil (c : Call) : c.key ≠ [] := by
  intro none
  have length := congrArg List.length none
  rw [key_eq_digest, Sha256.length_digest] at length
  cases length

theorem Cache.bytes?_outdated :
    outdated.bytes? Call.inOrder.key = some Payload.nextSchema ∧ outdated.bytes? [] = some [1] := by
  have differ := Call.key_ne_nil Call.inOrder
  simp [outdated, bytes?, differ]

theorem Call.examine_inOrder :
    inOrder.options.examine inOrder.file = notedFor (utf8 "a") :=
  payload_inOrder_swapped.1

theorem Call.fits_inOrder : inOrder.options.Fits inOrder.file where
  content := by decide +kernel
  path := by decide +kernel
  normalized := by rintro ⟨⟩
  owners := by
    rw [examine_inOrder]
    intro c member name owner
    obtain rfl := List.mem_singleton.1 member
    cases owner
    decide +kernel
  problem := by
    rw [examine_inOrder]
    decide +kernel

/-- The entry of another schema is replaced: the first extraction finds the comment with its owner, and
the second one shows it from the cache. -/
theorem Options.extractFile_heals_outdated :
    ∃ healed,
      (Call.inOrder.options.extractFile (some Cache.outdated) (utf8 "x") Call.inOrder.file).cache
        = some healed ∧
      healed.bytes? [] = some [1] ∧
      (Call.inOrder.options.extractFile (some Cache.outdated) (utf8 "x")
        Call.inOrder.file).result.cached = false ∧
      (Call.inOrder.options.extractFile (some healed) (utf8 "x") Call.inOrder.file).result.cached
        = true ∧
      (Call.inOrder.options.extractFile (some healed) (utf8 "x") Call.inOrder.file).result.comments
        = (Call.notedFor (utf8 "a")).comments := by
  obtain ⟨entry, other⟩ := Cache.bytes?_outdated
  obtain ⟨healed, kept, -, fresh, -, others, again⟩ := extractFile_heals Call.inOrder.options (utf8 "x")
    Call.inOrder.file Cache.outdated Payload.nextSchema entry Payload.decode_nextSchema
  obtain ⟨-, same⟩ := again Call.fits_inOrder
  refine ⟨healed, kept, ?_, fresh, congrArg FileResult.cached same, ?_⟩
  · rw [others [] (Call.key_ne_nil Call.inOrder).symm, other]
  · refine (congrArg FileResult.comments same).trans ?_
    rw [extractFile_direct (utf8 "x") Call.examine_inOrder]
    rfl

end Marginalia
