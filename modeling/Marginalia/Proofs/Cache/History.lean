import Marginalia.Proofs.Extraction.Report
import Marginalia.Proofs.Keyed
import Mathlib.Data.List.Basic

/-!
# Histories of extractions that share a cache

A cache answers a call with what was found out by the first call that had the
same key.  The key is made from the content of the file, its path and the
fingerprint of the options.  So a cache is seen by its callers exactly when two
calls have the same content and agree in path and fingerprint, and yet find out
different things: comments with other owners or texts, or another problem with
the owners, which may be the one that the parser of Go has with the file.

The fingerprint sorts the patterns of declarations, whereas a line is tried
against them in the order given.  Two calls that differ in that order alone have
the same key.  So have two calls with different paths, if what follows a zero in one
path is the beginning of the resolver of the other call; what is said about a text
that is no file of Go names the path, so these two are seen as well
(`Call.findings_ne_of_zero`).
-/

namespace Marginalia

set_option autoImplicit false

/-! ## Calls -/

/-- A call that extracts from a text. -/
structure Call where
  options : Options
  canceled : Bool
  name : Bytes
  content : Bytes
  deriving DecidableEq

/-- What a caller is shown of a result. -/
structure Shown where
  comments : List Comment
  notes : Notes
  bag : Option Bag
  resolverError : Option Bytes
  deriving DecidableEq

/-- What is shown of a result. -/
def FileResult.shown (r : FileResult) : Shown := ⟨r.comments, r.notes, r.bag, r.resolverError⟩

namespace Call

/-- The file that a call works on. -/
def file (c : Call) : SourceFile :=
  { id := 0, path := Path.clean c.name, content := c.content, flags := .virtual }

/-- What a call finds out when it looks for itself. -/
def payload [GoParser] (c : Call) : Payload := c.options.examine c.file

/-- What is shown to a call of something found out about its file; whether that comes from a cache
makes no difference. -/
def shows (c : Call) (p : Payload) : Shown :=
  ⟨p.comments, p.notes, some (c.options.bag p.scanDiagnostics p.notes.diagnostics),
    if p.resolverError.isEmpty then none else some p.resolverError⟩

/-- The key of a call. -/
def key (c : Call) : CacheKey := CacheKey.of c.file.path c.file.hash c.options

/-- The text that the key is the digest of. -/
def material (c : Call) : Bytes :=
  [1, 0] ++ Sha256.digest c.content ++ Path.clean c.name ++ [0] ++ c.options.fingerprint

/-- What the key is made from: the content, and the path and the fingerprint in one text. -/
def keyed (c : Call) : Bytes × Bytes :=
  (c.content, Path.clean c.name ++ [0] ++ c.options.fingerprint)

/-- What a call finds out beyond its content: the comments, and the problem with their owners. -/
def findings [GoParser] (c : Call) : List Comment × Bytes :=
    (c.payload.comments, c.payload.resolverError)

/-- Runs a call. -/
def run [GoParser] (cache : Option Cache) (c : Call) : Except ExtractError (FileSet × Outcome) :=
  c.options.extractText c.canceled cache c.name c.content

/-- The answer to a call that has no cache. -/
def direct [GoParser] (c : Call) : Except ExtractError Shown :=
  (c.run none).map fun finished => finished.2.result.shown

end Call

namespace Cache

/-- Answers a call: the cache afterwards, and what the caller is shown. -/
def serve [GoParser] (cache : Cache) (c : Call) : Cache × Except ExtractError Shown :=
  match c.run (some cache) with
  | .error e => (cache, .error e)
  | .ok (_, outcome) => (outcome.cache.getD cache, .ok outcome.result.shown)

/-- The answers to calls, one after the other. -/
def serveAll [GoParser] : Cache → List Call → List (Except ExtractError Shown)
  | _, [] => []
  | cache, c :: rest => (cache.serve c).2 :: (cache.serve c).1.serveAll rest

/-! ## One step -/

theorem bytes?_put (cache : Cache) (key key' : CacheKey) (p : Payload) :
    (cache.put key p).bytes? key' = if key = key' then some p.encode else cache.bytes? key' := by
  by_cases same : key = key'
  · rw [if_pos same]
    simp [bytes?, put, same]
  · rw [if_neg same, bytes?, put, List.find?_cons_of_neg (by simpa using same),
      find?_others cache.entries same, bytes?]

theorem run_of_live [GoParser] {c : Call} (live : c.canceled = false) (cache : Option Cache) :
    c.run cache = .ok ((({} : FileSet).addVirtual c.name c.content).2,
      c.options.extractFile cache c.name c.file) := by
  simp only [Call.run, Options.extractText, live, Bool.false_eq_true, if_false,
    Options.extractOnly, Call.file, FileSet.addVirtual]

theorem serve_of_entry [GoParser] {cache : Cache} {c : Call} {p : Payload}
    (live : c.canceled = false)
    (entry : cache.get? c.key = some p) : cache.serve c = (cache, .ok (c.shows p)) := by
  rw [Call.key] at entry
  rw [serve, run_of_live live, Options.extractFile, Option.bind_some, entry]
  rfl

-- What a call finds out is a variable here, so that nothing tries to compute it.
theorem serve_of_missing [GoParser] {cache : Cache} {c : Call} {p : Payload}
    (live : c.canceled = false)
    (entry : cache.get? c.key = none) (found : c.options.examine c.file = p) :
    cache.serve c = (cache.put c.key p, .ok (c.shows p)) := by
  rw [Call.key] at entry
  rw [serve, run_of_live live, Options.extractFile, found, Option.bind_some, entry]
  rfl

/-- What answering a call can do: a canceled call changes nothing, an entry is shown as it is, and
without one the call looks for itself and leaves an entry. -/
theorem serve_cases [GoParser] (cache : Cache) (c : Call) :
    (c.canceled = true ∧ cache.serve c = (cache, .error .canceled)) ∨
    (c.canceled = false ∧ ∃ p, cache.get? c.key = some p ∧
      cache.serve c = (cache, .ok (c.shows p))) ∨
    (c.canceled = false ∧ cache.get? c.key = none ∧
      cache.serve c = (cache.put c.key c.payload, .ok (c.shows c.payload))) := by
  cases live : c.canceled with
  | true =>
    refine .inl ⟨rfl, ?_⟩
    rw [serve, Call.run, Options.extractText, live, if_pos rfl]
  | false =>
    refine .inr ?_
    cases entry : cache.get? c.key with
    | some p => exact .inl ⟨rfl, p, rfl, serve_of_entry live entry⟩
    | none => exact .inr ⟨rfl, rfl, serve_of_missing live entry rfl⟩

end Cache

theorem Call.direct_of_live [GoParser] {c : Call} {p : Payload} (live : c.canceled = false)
    (found : c.options.examine c.file = p) : c.direct = .ok (c.shows p) := by
  rw [direct, Cache.run_of_live live, Options.extractFile, found, Option.bind_none]
  rfl

theorem Call.direct_of_canceled [GoParser] {c : Call} (canceled : c.canceled = true) :
    c.direct = .error .canceled := by
  rw [direct, run, Options.extractText, if_pos canceled]
  rfl

/-! ## Keys -/

theorem Sha256.length_bigEndian (n value : Nat) : (bigEndian n value).length = n := by
  induction n generalizing value with
  | zero => rfl
  | succ n ih => rw [bigEndian, List.length_append, ih, List.length_singleton]

theorem Sha256.length_digest (message : Bytes) : (digest message).length = 32 := by
  simp only [digest, State.bytes, List.flatMap_cons, List.flatMap_nil, List.length_append,
    length_bigEndian, List.length_nil]

/-- No two different texts among these have the same digest. -/
def CollisionFree (texts : List Bytes) : Prop :=
  ∀ s ∈ texts, ∀ t ∈ texts, Sha256.digest s = Sha256.digest t → s = t

theorem CollisionFree.mono {texts more : List Bytes} (free : CollisionFree more)
    (among : texts ⊆ more) : CollisionFree texts :=
  fun s first t second => free s (among first) t (among second)

theorem collisionFree_pair {s t : Bytes} (differ : Sha256.digest s ≠ Sha256.digest t) :
    CollisionFree [s, t] := by
  intro a first b second same
  simp only [List.mem_cons, List.not_mem_nil, or_false] at first second
  rcases first with rfl | rfl <;> rcases second with rfl | rfl
  · rfl
  · exact absurd same differ
  · exact absurd same.symm differ
  · rfl

namespace Call

/-- The texts whose digests are taken in a history. -/
def texts (calls : List Call) : List Bytes := calls.flatMap fun c => [c.content, c.material]

variable {calls : List Call} {a b c : Call}

theorem content_mem_texts (member : c ∈ calls) : c.content ∈ texts calls :=
  List.mem_flatMap.2 ⟨c, member, List.mem_cons_self⟩

theorem material_mem_texts (member : c ∈ calls) : c.material ∈ texts calls :=
  List.mem_flatMap.2 ⟨c, member, List.mem_cons_of_mem _ List.mem_cons_self⟩

theorem key_eq_digest (c : Call) : c.key = Sha256.digest c.material := rfl

theorem material_eq (c : Call) :
    c.material = [1, 0] ++ (Sha256.digest c.keyed.1 ++ c.keyed.2) := by
  simp only [material, keyed, List.append_assoc]

/-- **A key stands for what it is made from**, unless digests collide. -/
theorem key_eq_iff (free : CollisionFree (texts calls)) (first : a ∈ calls) (second : b ∈ calls) :
    a.key = b.key ↔ a.keyed = b.keyed := by
  constructor
  · intro same
    rw [key_eq_digest, key_eq_digest] at same
    have material := free _ (material_mem_texts first) _ (material_mem_texts second) same
    rw [material_eq, material_eq, List.append_cancel_left_eq] at material
    have lengths : (Sha256.digest a.keyed.1).length = (Sha256.digest b.keyed.1).length := by
      rw [Sha256.length_digest, Sha256.length_digest]
    obtain ⟨hashes, rest⟩ := List.append_inj material lengths
    have content := free _ (content_mem_texts first) _ (content_mem_texts second) hashes
    exact Prod.ext content rest
  · intro same
    rw [key_eq_digest, key_eq_digest, material_eq, material_eq, same]

end Call

/-! ## What a cache remembers -/

/-- What a call finds out can be read again after it was kept. -/
def Call.Readable [GoParser] (c : Call) : Prop := Payload.decode c.payload.encode = some c.payload

/-- The first call of a history that was not canceled and has the given key. -/
def Call.firstWithKey (history : List Call) (key : CacheKey) : Option Call :=
  history.find? fun c => !c.canceled && c.key = key

/-- The call of a history whose findings answer a call: the first that was not canceled and agrees
with it in content, path and fingerprint. -/
def Call.firstLike (history : List Call) (c : Call) : Call :=
  (history.find? fun d => !d.canceled && d.keyed = c.keyed).getD c

/-- The answer to a call from the findings of its history. -/
def Call.answerIn [GoParser] (history : List Call) (c : Call) : Except ExtractError Shown :=
  if c.canceled then .error .canceled else .ok (c.shows (c.firstLike history).payload)

namespace Cache

open Call

variable {cache : Cache} {past calls : List Call} {c : Call}

/-- The cache keeps under every key what the first of the past calls with that key found out. -/
def Remembers [GoParser] (cache : Cache) (past : List Call) : Prop :=
  ∀ key, cache.bytes? key = (firstWithKey past key).map fun c => c.payload.encode

theorem firstWithKey_concat (past : List Call) (c : Call) (key : CacheKey) :
    firstWithKey (past ++ [c]) key
      = (firstWithKey past key).or (if c.canceled = false ∧ c.key = key then some c else none) := by
  rw [firstWithKey, firstWithKey, List.find?_append, List.find?_singleton]
  congr 2
  simp

/-- An entry that is remembered can be read. -/
theorem get?_of_remembers [GoParser] (memory : cache.Remembers past)
    (readable : ∀ c ∈ past, c.Readable)
    (key : CacheKey) : cache.get? key = (firstWithKey past key).map Call.payload := by
  rw [get?, memory key]
  cases first : firstWithKey past key with
  | none => rfl
  | some d =>
    have read : Payload.decode d.payload.encode = some d.payload :=
      readable d (List.mem_of_find?_eq_some first)
    rw [Option.map_some, Option.map_some, Option.bind_some, read]

/-- **One step**: after a call the cache remembers that call too. -/
theorem Remembers.serve [GoParser] (memory : cache.Remembers past)
    (readable : ∀ c ∈ past, c.Readable)
    (c : Call) : (cache.serve c).1.Remembers (past ++ [c]) := by
  have entry := get?_of_remembers memory readable c.key
  intro key
  rw [firstWithKey_concat]
  rcases serve_cases cache c with
    ⟨canceled, served⟩ | ⟨live, p, known, served⟩ | ⟨live, unknown, served⟩
  · rw [served, memory key, if_neg (by simp [canceled]), Option.or_none]
  · rw [served, memory key]
    by_cases same : c.key = key
    · rw [entry, same] at known
      obtain ⟨d, first, -⟩ := Option.map_eq_some_iff.1 known
      rw [first, Option.some_or]
    · rw [if_neg fun both => same both.2, Option.or_none]
  · rw [served, bytes?_put, memory key]
    by_cases same : c.key = key
    · rw [entry, same, Option.map_eq_none_iff] at unknown
      rw [if_pos same, if_pos ⟨live, same⟩, unknown, Option.none_or, Option.map_some]
    · rw [if_neg same, if_neg fun both => same both.2, Option.or_none]

theorem firstWithKey_eq (free : CollisionFree (texts calls)) (member : c ∈ calls)
    (subset : ∀ d ∈ past, d ∈ calls) :
    firstWithKey past c.key = past.find? fun d => !d.canceled && d.keyed = c.keyed := by
  induction past with
  | nil => rfl
  | cons d past ih =>
    have agree := key_eq_iff free (subset d List.mem_cons_self) member
    have rest := ih fun e inPast => subset e (List.mem_cons_of_mem _ inPast)
    rw [firstWithKey] at rest ⊢
    rw [List.find?_cons, List.find?_cons, rest]
    simp only [agree]

/-- What a call is answered once the cache remembers the calls before it. -/
theorem Remembers.answer [GoParser] (memory : cache.Remembers past)
    (readable : ∀ c ∈ past, c.Readable)
    (free : CollisionFree (texts calls)) {rest : List Call} (whole : past ++ c :: rest = calls) :
    (cache.serve c).2 = c.answerIn calls := by
  have member : c ∈ calls := by
    rw [← whole]
    exact List.mem_append_right _ List.mem_cons_self
  have subset : ∀ d ∈ past, d ∈ calls := by
    intro d inPast
    rw [← whole]
    exact List.mem_append_left _ inPast
  have entry := get?_of_remembers memory readable c.key
  rw [firstWithKey_eq free member subset] at entry
  rw [answerIn]
  rcases serve_cases cache c with
    ⟨canceled, served⟩ | ⟨live, p, known, served⟩ | ⟨live, unknown, served⟩
  · rw [served, if_pos canceled]
  · rw [entry] at known
    obtain ⟨d, first, rfl⟩ := Option.map_eq_some_iff.1 known
    rw [served, if_neg (by simp [live]), firstLike, ← whole, List.find?_append, first,
      Option.some_or, Option.getD_some]
  · rw [entry, Option.map_eq_none_iff] at unknown
    rw [served, if_neg (by simp [live]), firstLike, ← whole, List.find?_append, unknown,
      Option.none_or, List.find?_cons_of_pos (by simp [live]), Option.getD_some]

/-- **A whole run**: every call is answered with the findings of the first call like it.  The induction
is on the calls to come; the cache remembers those that are past. -/
theorem serveAll_eq [GoParser] (free : CollisionFree (texts calls))
    (readable : ∀ c ∈ calls, c.Readable) :
    ∀ (rest past : List Call) (cache : Cache), past ++ rest = calls → cache.Remembers past →
      cache.serveAll rest = rest.map (answerIn calls) := by
  intro rest
  induction rest with
  | nil =>
    intro past cache _ _
    rfl
  | cons c rest ih =>
    intro past cache whole memory
    have readablePast : ∀ d ∈ past, d.Readable := by
      intro d inPast
      refine readable d ?_
      rw [← whole]
      exact List.mem_append_left _ inPast
    rw [serveAll, List.map_cons, memory.answer readablePast free whole,
      ih (past ++ [c]) _ (by rw [List.append_assoc]; exact whole) (memory.serve readablePast c)]

end Cache

/-! ## What a caller can see -/

namespace Call

variable {calls : List Call} {a b c : Call}

/-- The notes are made from the comments, and the diagnostics of the scan from the content alone. -/
theorem payload_eq [GoParser] (c : Call) :
    c.payload.notes = Notes.ofComments c.payload.comments ∧
      c.payload.scanDiagnostics = (Scan.ofText false c.content).diagnostics := by
  exact ⟨c.options.notes_examine c.file, c.options.scanDiagnostics_examine c.file⟩

/-- Of two calls with the same content, a caller sees that one was answered for the other exactly when
their findings differ. -/
theorem shows_eq_iff [GoParser] (same : a.content = b.content) :
    c.shows a.payload = c.shows b.payload ↔ a.findings = b.findings := by
  obtain ⟨notes, scanned⟩ := payload_eq a
  obtain ⟨notes', scanned'⟩ := payload_eq b
  rw [shows, shows, findings, findings, Shown.mk.injEq, Prod.mk.injEq, notes, notes', scanned,
    scanned', same]
  constructor
  · rintro ⟨comments, -, -, error⟩
    refine ⟨comments, ?_⟩
    revert error
    cases a.payload.resolverError <;> cases b.payload.resolverError <;> simp
  · rintro ⟨comments, error⟩
    rw [comments, error]
    exact ⟨rfl, rfl, rfl, rfl⟩

theorem direct_eq [GoParser] (c : Call) :
    c.direct = if c.canceled then .error .canceled else .ok (c.shows c.payload) := by
  cases live : c.canceled with
  | true => rw [direct_of_canceled live, if_pos rfl]
  | false => rw [direct_of_live live rfl, if_neg Bool.false_ne_true, payload]

theorem exists_first (member : c ∈ calls) (live : c.canceled = false) :
    ∃ d, (calls.find? fun d => !d.canceled && d.keyed = c.keyed) = some d := by
  refine Option.isSome_iff_exists.1 (List.find?_isSome.2 ⟨c, member, ?_⟩)
  simp [live]

/-- The call whose findings answer a call is one of the history, and agrees with it. -/
theorem firstLike_spec (member : c ∈ calls) (live : c.canceled = false) :
    c.firstLike calls ∈ calls ∧ (c.firstLike calls).canceled = false ∧
      (c.firstLike calls).keyed = c.keyed := by
  obtain ⟨d, first⟩ := exists_first member live
  have found := List.find?_some first
  simp only [Bool.and_eq_true, Bool.not_eq_true', decide_eq_true_eq] at found
  rw [firstLike, first, Option.getD_some]
  exact ⟨List.mem_of_find?_eq_some first, found⟩

/-- Calls that agree are answered by the same call. -/
theorem firstLike_congr (agree : a.keyed = b.keyed) (member : b ∈ calls)
    (live : b.canceled = false) : a.firstLike calls = b.firstLike calls := by
  obtain ⟨d, first⟩ := exists_first member live
  rw [firstLike, firstLike, agree, first, Option.getD_some, Option.getD_some]

end Call

/-! ## Transparency -/

/-- **When a cache is transparent.**  Calls that share a cache, empty at first, are each answered with
the findings of the first call that agrees with them in content, path and fingerprint.  So they are all
answered as without a cache exactly when calls that agree also agree in what they find out. -/
theorem Cache.serveAll_eq_direct_iff [GoParser] (calls : List Call)
    (free : CollisionFree (Call.texts calls))
    (readable : ∀ c ∈ calls, c.Readable) :
    ({} : Cache).serveAll calls = calls.map (Call.answerIn calls) ∧
    (({} : Cache).serveAll calls = calls.map Call.direct ↔
      ∀ a ∈ calls, ∀ b ∈ calls, a.canceled = false → b.canceled = false → a.keyed = b.keyed →
        a.findings = b.findings) := by
  have run : ({} : Cache).serveAll calls = calls.map (Call.answerIn calls) :=
    Cache.serveAll_eq free readable calls [] {} rfl fun _ => rfl
  have answered : ∀ c ∈ calls, c.canceled = false →
      (c.answerIn calls = c.direct ↔ (c.firstLike calls).findings = c.findings) := by
    intro c member live
    obtain ⟨-, -, agree⟩ := Call.firstLike_spec member live
    have content : (c.firstLike calls).content = c.content := congrArg Prod.fst agree
    rw [Call.answerIn, Call.direct_eq, if_neg (by simp [live]), if_neg (by simp [live]),
      Except.ok.injEq]
    exact Call.shows_eq_iff content
  refine ⟨run, ?_⟩
  rw [run, List.map_inj_left]
  constructor
  · intro transparent a first b second live live' agree
    have same := (answered a first live).1 (transparent a first)
    have same' := (answered b second live').1 (transparent b second)
    rw [← same, ← same', Call.firstLike_congr agree second live']
  · intro agreement c member
    cases live : c.canceled with
    | true => rw [Call.answerIn, Call.direct_eq, if_pos live, if_pos live]
    | false =>
      obtain ⟨first, firstLive, agree⟩ := Call.firstLike_spec member live
      exact (answered c member live).2 (agreement _ first c member firstLive live agree)

/-! ## Patterns in another order -/

namespace Bytes

theorem before_iff_lt (s t : Bytes) : before s t = true ↔ s < t := by
  fun_induction before s t with
  | case1 => simp
  | case2 => simp
  | case3 => simp
  | case4 a s b t ih =>
    rw [List.cons_lt_cons_iff, Bool.or_eq_true, Bool.and_eq_true, decide_eq_true_eq, beq_iff_eq, ih]

theorem not_before_iff_le (s t : Bytes) : (!before t s) = true ↔ s ≤ t := by
  rw [Bool.not_eq_true', ← Bool.not_eq_true, before_iff_lt, List.not_lt]

/-- Texts are sorted in the order of their bytes. -/
theorem pairwise_mergeSort (texts : List Bytes) :
    (texts.mergeSort fun a b => !before b a).Pairwise (· ≤ ·) := by
  have trans : ∀ a b c : Bytes, (!before b a) = true → (!before c b) = true →
      (!before c a) = true := by
    intro a b c first second
    rw [not_before_iff_le] at first second ⊢
    exact List.le_trans first second
  have total : ∀ a b : Bytes, ((!before b a) || (!before a b)) = true := by
    intro a b
    rw [Bool.or_eq_true, not_before_iff_le, not_before_iff_le]
    exact List.le_total a b
  exact (List.pairwise_mergeSort trans total texts).imp (not_before_iff_le _ _).1

end Bytes

/-- The fingerprint does not depend on the order in which the patterns are given. -/
theorem Options.fingerprint_eq_of_perm {o : Options} {patterns : List Bytes}
    (perm : o.patterns.Perm patterns) :
    { o with patterns }.fingerprint = o.fingerprint := by
  have sorted : patterns.mergeSort (fun a b => !Bytes.before b a)
      = o.patterns.mergeSort fun a b => !Bytes.before b a :=
    List.Perm.eq_of_pairwise (fun a b _ _ => List.le_antisymm) (Bytes.pairwise_mergeSort _)
      (Bytes.pairwise_mergeSort _)
      ((List.mergeSort_perm _ _).trans (perm.symm.trans (List.mergeSort_perm _ _).symm))
  rw [fingerprint, fingerprint, sorted]

namespace Call

/-- A call with two patterns of its own for a text with one comment. -/
def withPatterns (patterns : List Bytes) : Call where
  options := { resolver := .pattern, patterns := patterns }
  canceled := false
  name := utf8 "x"
  content := utf8 "ab // note\n"

/-- The two patterns find different names on the line, the first one `a` and the second one `b`. -/
def inOrder : Call := withPatterns [utf8 "^(a)", utf8 "^a(b)"]

/-- The same patterns the other way round. -/
def swapped : Call := withPatterns [utf8 "^a(b)", utf8 "^(a)"]

/-- What is found out when the comment belongs to the given name. -/
def notedFor (name : Bytes) : Payload where
  path := utf8 "x"
  comments :=
    [{ kind := .line
       text := utf8 " note"
       fullText := utf8 "// note"
       start := 3
       stop := 10
       line := 1
       column := 4
       owner := some name }]

theorem payload_inOrder_swapped :
    inOrder.payload = notedFor (utf8 "a") ∧ swapped.payload = notedFor (utf8 "b") := by
  decide +kernel

theorem decode_notedFor :
    Payload.decode (notedFor (utf8 "a")).encode = some (notedFor (utf8 "a")) ∧
      Payload.decode (notedFor (utf8 "b")).encode = some (notedFor (utf8 "b")) := by
  decide +kernel

theorem keyed_swapped : swapped.keyed = inOrder.keyed := by
  have fingerprint : swapped.options.fingerprint = inOrder.options.fingerprint :=
    Options.fingerprint_eq_of_perm (o := inOrder.options) (List.Perm.swap _ _ [])
  rw [keyed, keyed, fingerprint]
  rfl

theorem keyed_inOrder :
    inOrder.keyed = (utf8 "ab // note\n", utf8 "x\x00pattern|^(a)|^a(b)") := by
  have sorted : inOrder.options.patterns.mergeSort (fun a b => !Bytes.before b a)
      = inOrder.options.patterns := List.mergeSort_of_pairwise (by decide +kernel)
  rw [keyed, Options.fingerprint, sorted]
  decide +kernel

theorem digest_ne :
    Sha256.digest (utf8 "ab // note\n") ≠ Sha256.digest ([1, 0] ++
      (Sha256.digest (utf8 "ab // note\n") ++ utf8 "x\x00pattern|^(a)|^a(b)")) := by
  decide +kernel

/-- Calls that agree take the digests of two texts only. -/
theorem collisionFree_of_agree {a b : Call} (agree : b.keyed = a.keyed)
    (differ : Sha256.digest a.content ≠ Sha256.digest a.material) :
    CollisionFree (texts [a, b]) := by
  have content : b.content = a.content := congrArg Prod.fst agree
  have material : b.material = a.material := by rw [material_eq, material_eq, agree]
  refine (collisionFree_pair differ).mono fun s member => ?_
  simp only [texts, List.flatMap_cons, List.flatMap_nil, List.cons_append, List.nil_append,
    List.mem_cons, List.not_mem_nil, or_false, content, material] at member ⊢
  tauto

theorem collisionFree_swapped : CollisionFree (texts [inOrder, swapped]) := by
  refine collisionFree_of_agree keyed_swapped ?_
  rw [material_eq, keyed_inOrder]
  exact digest_ne

end Call

/-- Patterns in another order are answered from the cache with the owner that the first order gives. -/
theorem Cache.serveAll_swapped_ne_direct :
    CollisionFree (Call.texts [Call.inOrder, Call.swapped]) ∧
    (∀ c ∈ [Call.inOrder, Call.swapped], c.Readable) ∧
    ({} : Cache).serveAll [Call.inOrder, Call.swapped]
      ≠ [Call.inOrder, Call.swapped].map Call.direct := by
  obtain ⟨found, found'⟩ := Call.payload_inOrder_swapped
  have readable : ∀ c ∈ [Call.inOrder, Call.swapped], c.Readable := by
    intro c member
    simp only [List.mem_cons, List.not_mem_nil, or_false] at member
    rw [Call.Readable]
    rcases member with rfl | rfl
    · rw [found]
      exact Call.decode_notedFor.1
    · rw [found']
      exact Call.decode_notedFor.2
  refine ⟨Call.collisionFree_swapped, readable, ?_⟩
  intro transparent
  have agree := (Cache.serveAll_eq_direct_iff [Call.inOrder, Call.swapped]
    Call.collisionFree_swapped readable).2.1 transparent Call.inOrder List.mem_cons_self Call.swapped
    (List.mem_cons_of_mem _ List.mem_cons_self) rfl rfl Call.keyed_swapped.symm
  rw [Call.findings, Call.findings, found, found'] at agree
  revert agree
  decide +kernel

/-! ## A path that reads like a resolver -/

namespace Call

/-- A call for a text that is no file of Go, with a choice of a resolver that is not known. -/
def unread (name kind : Bytes) : Call where
  options := { resolver := .other kind }
  canceled := false
  name
  content := utf8 "x"

/-- The problem that such a call finds is told with its path. -/
theorem prefix_resolverError_unread [GoParser] {name kind : Bytes} (named : Path.clean name ≠ [])
    (go : Bytes.equalFold (Path.extension (Path.clean name)) (utf8 ".go") = true) :
    Resolver.notGoMessage ++ utf8 ": " ++ (Path.clean name ++ utf8 ":")
      <+: (unread name kind).payload.resolverError := by
  have noGo : Outline.ofText? (utf8 "x") = none := by decide +kernel
  have plain : ¬ HasLineDirective (utf8 "x") := by
    rintro (inside | inside)
    · exact absurd inside.length_le (by decide)
    · exact absurd inside.length_le (by decide)
  have usual : (LineMatcher.ofPatterns []).toOption.isSome = true := by decide +kernel
  obtain ⟨matchers, read⟩ := Option.isSome_iff_exists.1 usual
  have kind_ : Resolver.ofKind (.other kind) (Path.clean name) [] = .ok (.go matchers) := by
    cases accepted : LineMatcher.ofPatterns [] with
    | error e => simp [accepted, Except.toOption] at read
    | ok ms =>
      simp only [accepted, Except.toOption, Option.some.injEq] at read
      rw [Resolver.ofKind, accepted, ← read]
      simp only [Except.map, go, if_true]
  have told : (unread name kind).payload.resolverError
      = Resolver.notGo (Path.clean name) (utf8 "x") := by
    rw [payload, Options.examine, unread, file, Options.resolve, kind_]
    simp only [Resolver.resolve, noGo, if_true, Option.getD_some]
  rw [told]
  exact Resolver.prefix_notGo named noGo plain

/-- A call whose choice of a resolver starts like a path. -/
def zeroInKind : Call := unread (utf8 "x.go") (utf8 "y.go\x00z")

/-- A call whose path goes on like that choice. -/
def zeroInName : Call := unread (utf8 "x.go\x00y.go") (utf8 "z")

/-- **The zero between path and resolver can be part of either.**  The two calls agree in what their key
is made from, and whatever the parser says, each of them finds it said of its own path. -/
theorem findings_ne_of_zero [GoParser] :
    zeroInKind.keyed = zeroInName.keyed ∧ zeroInKind.findings ≠ zeroInName.findings := by
  have keyed_unread (name kind : Bytes) :
      (unread name kind).keyed = (utf8 "x", Path.clean name ++ [0] ++ kind) := by
    rw [keyed, Options.fingerprint, unread, List.mergeSort_nil]
    simp [ResolverKind.name]
  constructor
  · rw [zeroInKind, zeroInName, keyed_unread, keyed_unread]
    decide
  · intro same
    have first : _ <+: zeroInKind.payload.resolverError :=
      prefix_resolverError_unread (by decide) (by decide +kernel)
    have second : _ <+: zeroInName.payload.resolverError :=
      prefix_resolverError_unread (by decide) (by decide +kernel)
    have error : zeroInKind.payload.resolverError = zeroInName.payload.resolverError :=
      congrArg Prod.snd same
    rw [error] at first
    have nested := List.prefix_of_prefix_length_le first second (by decide)
    exact absurd nested (by decide)

end Call

end Marginalia
