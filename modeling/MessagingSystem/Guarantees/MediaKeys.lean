import MessagingSystem.Source.Client.UriComponent
import MessagingSystem.Source.Server.UserMediaUpload

/-!
# Media keys stay in their owner's folder

The check reads a key without leading slashes and outer white space, and the URL is
made of the key as it was sent. So a key is confined to its owner's folder exactly
when the segments that were sent lead there.
-/
namespace MessagingSystem.Guarantees.MediaKeys
open Foundation Foundation.UrlPath Source.Client Source.Server

/-- The segments of a key. -/
def segments (key : String) : List (List Char) := key.toList.splitOn '/'

/-- The directory of the bucket's objects: the base's path, and the bucket. -/
def bucketRoot (base : PublicBaseUrl) (bucket : String) : List (List Char) :=
  (pathSegments (dropFinalSlash base.val).toList ++ [encodeSegment bucket.toList]).foldl enter []

/-- Without its dot segments the URL is that of an object whose key starts with the folder. -/
def DenotesUnder (env : StorageEnv) (folder url : String) : Prop :=
  ∃ base bucket objectKey, env.S3_PUBLIC_BASE_URL = some base ∧ env.S3_BUCKET = some bucket ∧
    EcmaText.startsWith objectKey folder = true ∧
    removeDotSegments (pathSegments url.toList) = bucketRoot base bucket ++ (segments objectKey).map encodeSegment

/-- The contract of the keys of two users. -/
structure StaysInFolder (env : StorageEnv) (userU userV filename uuid key : String) : Prop where
  exclusive : ¬ (isUserMediaObjectKeyOwnedByUser env userU key = true ∧
    isUserMediaObjectKeyOwnedByUser env userV key = true)
  built : isUserMediaObjectKeyOwnedByUser env userU (buildUserMediaObjectKey env userU filename uuid) = true
  confined : ∀ url, profilePictureOfMediaKey env userU key = some url → publicObjectUrl env key = some url →
    DenotesUnder env (userMediaKeyPrefixForUser env userU) url

/-- The move that a segment of a key makes. -/
def moveOf (segment : List Char) : Move (List Char) :=
  if segment = ['.', '.'] then .up else if segment = ['.'] then .stay else .down segment

/-- A dot segment, as it is written in a key. -/
def IsDot (segment : List Char) : Prop := segment = ['.'] ∨ segment = ['.', '.']

instance (segment : List Char) : Decidable (IsDot segment) :=
  inferInstanceAs (Decidable (segment = ['.'] ∨ segment = ['.', '.']))

/-- Where the key leads, read as a relative path from the directory: each name goes down, `..` undoes the name
before it, and a dot segment at the end leaves an empty name. -/
def landing (root : List (List Char)) (key : String) : List (List Char) :=
  walk root encodeSegment ((segments key).map moveOf) ++
    if (segments key).getLast?.any fun last => decide (IsDot last) then [[]] else []

/-- The names of a user's folder. -/
def userFolder (env : StorageEnv) (userId : String) : List (List Char) :=
  segments (withKeyPrefix env ("users/" ++ userId))

/-- The key leads from the bucket into the user's folder. -/
def LeadsInto (env : StorageEnv) (userId key : String) : Prop :=
  ∀ base bucket, env.S3_PUBLIC_BASE_URL = some base → env.S3_BUCKET = some bucket → bucket ≠ "" →
    ∃ inside, inside ≠ [] ∧
      landing (bucketRoot base bucket) key =
        bucketRoot base bucket ++ (userFolder env userId).map encodeSegment ++ inside

/-- A key without dot segments starts, as it was sent, with the user's prefix; one with dot segments leads into the
user's folder. -/
def Confined (env : StorageEnv) (userId key : String) : Prop :=
  if ∃ segment ∈ segments key, IsDot segment then LeadsInto env userId key
  else EcmaText.startsWith key (userMediaKeyPrefixForUser env userId) = true

section Segments

/-- What starts with a path and a slash has the segments of the path, and more. -/
theorem segments_of_startsWith {key path : String} (starts : EcmaText.startsWith key (path ++ "/") = true) :
    ∃ more, segments key = segments path ++ more ∧ more ≠ [] := by
  unfold EcmaText.startsWith at starts
  obtain ⟨rest, cut⟩ := List.isPrefixOf_iff_prefix.mp starts
  have chars : key.toList = path.toList ++ '/' :: rest := by
    rw [← cut, String.toList_append]
    simp
  refine ⟨rest.splitOn '/', ?_, List.splitOn_ne_nil _ _⟩
  unfold segments
  rw [chars, List.splitOn_append_cons_self]

/-- The segments of a path, and names after them, are those of a key that starts with the path and a slash. -/
theorem exists_key_of_segments (path : String) {more : List (List Char)} (some : more ≠ [])
    (plain : ∀ name ∈ more, '/' ∉ name) :
    ∃ key, EcmaText.startsWith key (path ++ "/") = true ∧ segments key = segments path ++ more := by
  refine ⟨path ++ "/" ++ String.ofList (['/'].intercalate more), EcmaText.startsWith_append _ _, ?_⟩
  unfold segments
  have chars : (path ++ "/" ++ String.ofList (['/'].intercalate more)).toList =
      path.toList ++ '/' :: ['/'].intercalate more := by simp
  rw [chars, List.splitOn_append_cons_self, List.splitOn_intercalate '/' plain some]

theorem segments_injective {first second : String} (same : segments first = segments second) : first = second := by
  have joined := congrArg (List.intercalate ['/']) same
  unfold segments at joined
  rw [List.intercalate_splitOn, List.intercalate_splitOn] at joined
  exact String.toList_inj.mp joined

theorem segments_ne_nil (key : String) : segments key ≠ [] := List.splitOn_ne_nil _ _

theorem slash_notMem_segments {key : String} {segment : List Char} (among : segment ∈ segments key) :
    '/' ∉ segment := by
  have pieces : ∀ chars : List Char, ∀ segment ∈ chars.splitOn '/', '/' ∉ segment := by
    intro chars
    induction chars with
    | nil => simp
    | cons c rest ih =>
      intro segment among
      rw [List.splitOn_cons_eq_if_modifyHead] at among
      split at among
      · rcases List.mem_cons.mp among with empty | later
        · rw [empty]
          exact List.not_mem_nil
        · exact ih segment later
      · rename_i other
        cases pieces : rest.splitOn '/' with
        | nil => exact absurd pieces (List.splitOn_ne_nil _ _)
        | cons first more =>
          rw [pieces] at among ih
          rcases List.mem_cons.mp among with head | later
          · rw [head]
            intro inside
            rcases List.mem_cons.mp inside with same | inside
            · exact other (by rw [← same]; rfl)
            · exact ih first List.mem_cons_self inside
          · exact ih segment (List.mem_cons_of_mem _ later)
  exact pieces key.toList segment among

theorem userMediaKeyPrefixForUser_eq (env : StorageEnv) (userId : String) :
    userMediaKeyPrefixForUser env userId = withKeyPrefix env ("users/" ++ userId) ++ "/" := by
  unfold userMediaKeyPrefixForUser withKeyPrefix
  split
  · rfl
  · simp only [String.append_assoc]

end Segments

section Urls

variable {env : StorageEnv} {base : PublicBaseUrl} {bucket key url : String}

/-- A segment of a key does in the URL what it does in the key. -/
theorem enter_encodeSegment (place : List (List Char)) (segment : List Char) :
    enter place (encodeSegment segment) = walk place encodeSegment [moveOf segment] := by
  unfold enter moveOf walk
  rw [isDoubleDot_encodeSegment, isSingleDot_encodeSegment]
  by_cases double : segment = ['.', '.']
  · simp [double]
  · by_cases single : segment = ['.']
    · simp [single]
    · simp [double, single]

theorem foldl_enter (place : List (List Char)) (names : List (List Char)) :
    (names.map encodeSegment).foldl enter place = walk place encodeSegment (names.map moveOf) := by
  induction names generalizing place with
  | nil => rfl
  | cons name rest ih =>
    rw [List.map_cons, List.foldl_cons, ih, enter_encodeSegment, ← walk_append]
    rfl

/-- The path of a URL that is made of a key leads where the key does. -/
theorem removeDotSegments_url (place names : List (List Char)) (some : names ≠ []) :
    removeDotSegments (place ++ names.map encodeSegment) =
      walk (place.foldl enter []) encodeSegment (names.map moveOf) ++
        if names.getLast?.any fun last => decide (IsDot last) then [[]] else [] := by
  have last : (place ++ names.map encodeSegment).getLast? = names.getLast?.map encodeSegment := by
    rw [List.getLast?_append, List.getLast?_map]
    cases ended : names.getLast? with
    | none => exact absurd (List.getLast?_eq_none_iff.mp ended) some
    | some last => rfl
  have dots (segment : List Char) : (isSingleDot (encodeSegment segment) || isDoubleDot (encodeSegment segment)) =
      decide (IsDot segment) := by
    rw [isSingleDot_encodeSegment, isDoubleDot_encodeSegment, ← Bool.decide_or]
    rfl
  unfold removeDotSegments
  rw [List.foldl_append, foldl_enter, last]
  cases names.getLast? with
  | none => rfl
  | some last =>
    rw [Option.map_some, Option.any_some, Option.any_some, dots]

theorem mem_intercalate {c sep : Char} {pieces : List (List Char)} (inside : c ∈ [sep].intercalate pieces) :
    c = sep ∨ ∃ piece ∈ pieces, c ∈ piece := by
  induction pieces with
  | nil => exact absurd inside List.not_mem_nil
  | cons piece rest ih =>
    by_cases last : rest = []
    · rw [last, List.intercalate_singleton] at inside
      exact .inr ⟨piece, List.mem_cons_self, inside⟩
    · rw [List.intercalate_cons_of_ne_nil last] at inside
      rcases List.mem_append.mp inside with before | after
      · rcases List.mem_append.mp before with here | slash
        · exact .inr ⟨piece, List.mem_cons_self, here⟩
        · exact .inl (List.mem_singleton.mp slash)
      · rcases ih after with slash | ⟨other, among, inside⟩
        · exact .inl slash
        · exact .inr ⟨other, List.mem_cons_of_mem _ among, inside⟩

theorem encodeObjectPath_toList (key : String) :
    (encodeObjectPath key).toList = ['/'].intercalate ((segments key).map encodeSegment) := by
  unfold encodeObjectPath segments
  rw [String.toList_intercalate, List.map_map]
  have each : String.toList ∘ (fun part : List Char => encodeURIComponent (String.ofList part)) = encodeSegment := by
    funext part
    rw [Function.comp_apply, encodeURIComponent_toList, String.toList_ofList]
  rw [each]
  rfl

theorem publicObjectUrl_eq_some (made : publicObjectUrl env key = some url) :
    ∃ base bucket, env.S3_PUBLIC_BASE_URL = some base ∧ env.S3_BUCKET = some bucket ∧ bucket ≠ "" ∧
      url = dropFinalSlash base.val ++ "/" ++ encodeURIComponent bucket ++ "/" ++ encodeObjectPath key := by
  unfold publicObjectUrl at made
  split at made
  · rename_i base bucket baseSet bucketSet
    split at made
    · cases made
    · rename_i named
      exact ⟨base, bucket, baseSet, bucketSet, named, (Option.some.inj made).symm⟩
  · cases made

/-- The characters that end no path. -/
def inPath (c : Char) : Bool := c ≠ '?' && c ≠ '#'

theorem encodeSegment_inPath (segment : List Char) : ∀ c ∈ encodeSegment segment, inPath c = true := by
  intro c inside
  have question : c ≠ '?' := fun same => encodeSegment_plain (by decide) segment (same ▸ inside)
  have hash : c ≠ '#' := fun same => encodeSegment_plain (by decide) segment (same ▸ inside)
  simp [inPath, question, hash]

theorem encodeObjectPath_inPath (key : String) : ∀ c ∈ (encodeObjectPath key).toList, inPath c = true := by
  intro c inside
  rw [encodeObjectPath_toList] at inside
  rcases mem_intercalate inside with slash | ⟨piece, among, inside⟩
  · rw [slash]
    decide
  · obtain ⟨segment, -, rfl⟩ := List.mem_map.mp among
    exact encodeSegment_inPath segment c inside

theorem base_inPath (base : PublicBaseUrl) : ∀ c ∈ (dropFinalSlash base.val).toList, inPath c = true := by
  intro c inside
  have there : c ∈ base.val.toList := by
    unfold dropFinalSlash at inside
    split at inside
    · rw [String.toList_ofList] at inside
      exact List.mem_of_mem_dropLast inside
    · exact inside
  simpa [inPath] using base.plain c there

theorem encodeObjectPath_splitOn (key : String) :
    (encodeObjectPath key).toList.splitOn '/' = (segments key).map encodeSegment := by
  have pieces : ∀ piece ∈ (segments key).map encodeSegment, '/' ∉ piece := by
    intro piece among
    obtain ⟨segment, -, rfl⟩ := List.mem_map.mp among
    exact encodeSegment_plain (by decide) segment
  have some : (segments key).map encodeSegment ≠ [] := by
    rw [Ne, List.map_eq_nil_iff]
    exact segments_ne_nil key
  rw [encodeObjectPath_toList, List.splitOn_intercalate '/' pieces some]

/-- The segments of the path of a public URL. -/
theorem pathSegments_publicUrl (base : PublicBaseUrl) (bucket key : String) :
    pathSegments (dropFinalSlash base.val ++ "/" ++ encodeURIComponent bucket ++ "/" ++ encodeObjectPath key).toList =
      (pathSegments (dropFinalSlash base.val).toList ++ [encodeSegment bucket.toList]) ++
        (segments key).map encodeSegment := by
  have chars : (dropFinalSlash base.val ++ "/" ++ encodeURIComponent bucket ++ "/" ++ encodeObjectPath key).toList =
      (dropFinalSlash base.val).toList ++ '/' :: (encodeSegment bucket.toList ++
        '/' :: (encodeObjectPath key).toList) := by
    simp [encodeURIComponent_toList]
  have whole : ∀ c ∈ (dropFinalSlash base.val).toList ++ '/' :: (encodeSegment bucket.toList ++
      '/' :: (encodeObjectPath key).toList), inPath c = true := by
    intro c inside
    simp only [List.mem_append, List.mem_cons] at inside
    rcases inside with base' | slash | named | slash | path
    · exact base_inPath base c base'
    · exact slash ▸ rfl
    · exact encodeSegment_inPath _ c named
    · exact slash ▸ rfl
    · exact encodeObjectPath_inPath key c path
  have cut (url : List Char) (plain : ∀ c ∈ url, inPath c = true) : pathSegments url = (url.splitOn '/').drop 3 := by
    unfold pathSegments
    rw [show (url.takeWhile fun c => c ≠ '?' && c ≠ '#') = url from List.takeWhile_eq_self_iff.mpr plain]
  rw [chars, cut _ whole, cut _ (base_inPath base), List.splitOn_append_cons_self,
    List.splitOn_append_cons_self_of_not_mem (encodeSegment_plain (by decide) _), encodeObjectPath_splitOn,
    List.drop_append_of_le_length base.hierarchical, List.append_assoc, List.singleton_append]

end Urls

section Confinement

variable {env : StorageEnv} {userId key url : String}

/-- A key leads to a part of the directory, and names without slashes. -/
theorem landing_eq (root : List (List Char)) (key : String) :
    ∃ (kept : Nat) (names : List (List Char)), kept ≤ root.length ∧
      landing root key = root.take kept ++ names.map encodeSegment ∧ ∀ name ∈ names, '/' ∉ name := by
  obtain ⟨kept, names, bound, here, among⟩ := walk_eq root encodeSegment ((segments key).map moveOf)
  have plain : ∀ name ∈ names, '/' ∉ name := by
    intro name member
    obtain ⟨segment, listed, move⟩ := List.mem_map.mp (among name member)
    unfold moveOf at move
    split at move
    · cases move
    · split at move
      · cases move
      · cases move
        exact slash_notMem_segments listed
  unfold landing
  rw [here]
  split
  · refine ⟨kept, names ++ [[]], bound, ?_, ?_⟩
    · rw [List.map_append, List.append_assoc]
      rfl
    · intro name member
      rcases List.mem_append.mp member with before | last
      · exact plain name before
      · rw [List.mem_singleton.mp last]
        exact List.not_mem_nil
  · exact ⟨kept, names, bound, by rw [List.append_nil], plain⟩

/-- The URL of a key is that of an object in the folder exactly when the key leads there. -/
theorem denotesUnder_iff (made : publicObjectUrl env key = some url) :
    DenotesUnder env (userMediaKeyPrefixForUser env userId) url ↔ LeadsInto env userId key := by
  obtain ⟨base, bucket, baseSet, bucketSet, named, rfl⟩ := publicObjectUrl_eq_some made
  have landed : removeDotSegments (pathSegments (dropFinalSlash base.val ++ "/" ++ encodeURIComponent bucket ++ "/" ++
      encodeObjectPath key).toList) = landing (bucketRoot base bucket) key := by
    rw [pathSegments_publicUrl, removeDotSegments_url _ _ (segments_ne_nil key)]
    rfl
  rw [userMediaKeyPrefixForUser_eq]
  constructor
  · rintro ⟨base', bucket', objectKey, baseSet', bucketSet', starts, denoted⟩
    obtain rfl := Option.some.inj (baseSet.symm.trans baseSet')
    obtain rfl := Option.some.inj (bucketSet.symm.trans bucketSet')
    obtain ⟨more, names, some⟩ := segments_of_startsWith starts
    intro base' bucket' baseSet' bucketSet' _
    obtain rfl := Option.some.inj (baseSet.symm.trans baseSet')
    obtain rfl := Option.some.inj (bucketSet.symm.trans bucketSet')
    refine ⟨more.map encodeSegment, by simpa using some, ?_⟩
    rw [← landed, denoted, names, List.map_append, List.append_assoc]
    rfl
  · intro leads
    obtain ⟨inside, some, here⟩ := leads base bucket baseSet bucketSet named
    obtain ⟨kept, names, bound, there, plain⟩ := landing_eq (bucketRoot base bucket) key
    -- what stands beyond the directory has been named by the key
    have beyond : (userFolder env userId).map encodeSegment ++ inside =
        (names.drop ((bucketRoot base bucket).length - kept)).map encodeSegment := by
      have tails := congrArg (List.drop (bucketRoot base bucket).length) (here.symm.trans there)
      rw [List.append_assoc, List.drop_left, List.drop_append, List.length_take, Nat.min_eq_left bound,
        List.drop_eq_nil_of_le (by rw [List.length_take]; omega), List.nil_append, ← List.map_drop] at tails
      exact tails
    obtain ⟨front, more, cut, -, rest⟩ := List.map_eq_append_iff.mp beyond.symm
    have morePlain : ∀ name ∈ more, '/' ∉ name := by
      intro name member
      apply plain name
      apply List.mem_of_mem_drop
      rw [cut]
      exact List.mem_append_right _ member
    have moreSome : more ≠ [] := by
      rintro rfl
      exact some rest.symm
    obtain ⟨objectKey, starts, pieces⟩ :=
      exists_key_of_segments (withKeyPrefix env ("users/" ++ userId)) moreSome morePlain
    refine ⟨base, bucket, objectKey, baseSet, bucketSet, starts, ?_⟩
    rw [landed, here, pieces, List.map_append, rest, ← List.append_assoc]
    rfl

/-- A key without dot segments leads into the folder exactly when it starts with the prefix. -/
theorem leadsInto_plain_iff (plain : ¬ ∃ segment ∈ segments key, IsDot segment)
    (made : publicObjectUrl env key = some url) :
    LeadsInto env userId key ↔ EcmaText.startsWith key (userMediaKeyPrefixForUser env userId) = true := by
  have noDot : ∀ segment ∈ segments key, ¬ IsDot segment := fun segment among dot => plain ⟨segment, among, dot⟩
  have moves : (segments key).map moveOf = (segments key).map .down := by
    apply List.map_congr_left
    intro segment among
    obtain ⟨single, double⟩ := not_or.mp (noDot segment among)
    unfold moveOf
    rw [if_neg double, if_neg single]
  have ends : (segments key).getLast?.any (fun last => decide (IsDot last)) = false := by
    cases ended : (segments key).getLast? with
    | none => rfl
    | some last => exact decide_eq_false (noDot last (List.mem_of_getLast? ended))
  have landed (root : List (List Char)) : landing root key = root ++ (segments key).map encodeSegment := by
    unfold landing
    rw [moves, walk_down, ends, if_neg Bool.false_ne_true, List.append_nil]
  rw [userMediaKeyPrefixForUser_eq]
  constructor
  · intro leads
    obtain ⟨base, bucket, baseSet, bucketSet, named, -⟩ := publicObjectUrl_eq_some made
    obtain ⟨inside, some, here⟩ := leads base bucket baseSet bucketSet named
    rw [landed, List.append_assoc] at here
    obtain ⟨front, more, cut, same, rest⟩ := List.map_eq_append_iff.mp (List.append_cancel_left here)
    have folder : front = userFolder env userId := List.map_injective_iff.mpr encodeSegment_injective same
    have moreSome : more ≠ [] := by
      rintro rfl
      exact some rest.symm
    have morePlain : ∀ name ∈ more, '/' ∉ name := by
      intro name member
      apply @slash_notMem_segments key
      rw [cut]
      exact List.mem_append_right _ member
    obtain ⟨other, starts, pieces⟩ :=
      exists_key_of_segments (withKeyPrefix env ("users/" ++ userId)) moreSome morePlain
    have same : key = other := segments_injective (by rw [cut, pieces, folder]; rfl)
    exact same ▸ starts
  · intro starts base bucket baseSet bucketSet _
    obtain ⟨more, names, some⟩ := segments_of_startsWith starts
    refine ⟨more.map encodeSegment, by simpa using some, ?_⟩
    rw [landed, names, List.map_append, List.append_assoc]
    rfl

/-- The URL of a key is that of an object in the folder exactly when the key is confined. -/
theorem denotesUnder_iff_confined (made : publicObjectUrl env key = some url) :
    DenotesUnder env (userMediaKeyPrefixForUser env userId) url ↔ Confined env userId key := by
  rw [denotesUnder_iff made]
  unfold Confined
  split
  · exact Iff.rfl
  · rename_i plain
    exact leadsInto_plain_iff plain made

end Confinement

section Ownership

variable {env : StorageEnv} {userU userV key : String}

theorem owned_startsWith (owned : isUserMediaObjectKeyOwnedByUser env userU key = true) :
    ∃ rest, (EcmaText.trim (dropLeadingSlashes key)).toList =
      (withKeyPrefix env "users/").toList ++ (userU.toList ++ '/' :: rest) := by
  have parts : (userMediaKeyPrefixForUser env userU).toList =
      (withKeyPrefix env "users/").toList ++ (userU.toList ++ ['/']) := by
    unfold userMediaKeyPrefixForUser withKeyPrefix
    split <;> simp
  unfold isUserMediaObjectKeyOwnedByUser at owned
  dsimp only at owned
  split at owned
  · cases owned
  · unfold EcmaText.startsWith at owned
    obtain ⟨rest, cut⟩ := List.isPrefixOf_iff_prefix.mp owned
    rw [parts] at cut
    exact ⟨rest, by rw [← cut]; simp⟩

/-- The folders of two users have no key in common. -/
theorem owned_exclusive (different : userU ≠ userV) (plainU : '/' ∉ userU.toList) (plainV : '/' ∉ userV.toList) :
    ¬ (isUserMediaObjectKeyOwnedByUser env userU key = true ∧ isUserMediaObjectKeyOwnedByUser env userV key = true) := by
  rintro ⟨ownedU, ownedV⟩
  obtain ⟨restU, keyU⟩ := owned_startsWith ownedU
  obtain ⟨restV, keyV⟩ := owned_startsWith ownedV
  have tails := List.append_cancel_left (keyU.symm.trans keyV)
  have pieces := congrArg (List.splitOn '/') tails
  rw [List.splitOn_append_cons_self_of_not_mem plainU, List.splitOn_append_cons_self_of_not_mem plainV] at pieces
  exact different (String.toList_inj.mp (List.cons.inj pieces).1)

end Ownership

section Built

variable {env : StorageEnv} {userId filename uuid : String}

theorem filenameChar_solid {c : Char} (kept : isFilenameChar c = true) : EcmaText.isSpace c = false ∧ c ≠ '/' := by
  have range : 45 ≤ c.toNat ∧ c.toNat ≤ 122 := by
    have value (d : Char) : d.toNat = d.val.toNat := rfl
    simp only [isFilenameChar, Bool.or_eq_true, Bool.and_eq_true, decide_eq_true_eq, Char.le_def,
      UInt32.le_iff_toNat_le] at kept
    rcases kept with ((((⟨low, high⟩ | ⟨low, high⟩) | ⟨low, high⟩) | rfl) | rfl) | rfl
    · exact ⟨le_trans (by decide) low, le_trans high (by decide)⟩
    · exact ⟨le_trans (by decide) low, le_trans high (by decide)⟩
    · exact ⟨le_trans (by decide) low, le_trans high (by decide)⟩
    · decide
    · decide
    · decide
  constructor
  · unfold EcmaText.isSpace
    simp only [Bool.or_eq_false_iff, Bool.and_eq_false_iff, decide_eq_false_iff_not, beq_eq_false_iff_ne]
    omega
  · rintro rfl
    exact absurd kept (by decide)

theorem safeFilename_chars (name : String) : ∀ c ∈ (safeFilename name).toList, isFilenameChar c = true := by
  unfold safeFilename
  dsimp only
  split
  · have plain : ("file".toList.all isFilenameChar) = true := by decide
    exact List.all_eq_true.mp plain
  · intro c inside
    rw [String.toList_ofList] at inside
    obtain ⟨d, -, here⟩ := List.mem_flatMap.mp (List.mem_of_mem_take inside)
    split at here
    · rename_i kept
      rw [List.mem_singleton.mp here]
      exact kept
    · rw [List.eq_of_mem_replicate here]
      decide

theorem safeFilename_ne_empty (name : String) : safeFilename name ≠ "" := by
  unfold safeFilename
  dsimp only
  split
  · decide
  · assumption

theorem buildUserMediaObjectKey_eq (env : StorageEnv) (userId filename uuid : String) :
    buildUserMediaObjectKey env userId filename uuid =
      userMediaKeyPrefixForUser env userId ++ (uuid ++ "-" ++ safeFilename filename) := by
  unfold buildUserMediaObjectKey userMediaKeyPrefixForUser withKeyPrefix
  split <;> simp only [String.append_assoc]

/-- A trimmed text does not begin with white space. -/
theorem head_solid {s : String} {first : Char} {rest : List Char} (trimmed : EcmaText.Trimmed s)
    (cut : s.toList = first :: rest) : EcmaText.isSpace first = false := by
  by_contra space
  have shorter : (EcmaText.trim s).toList.length < s.toList.length := by
    unfold EcmaText.trim EcmaText.trimChars
    rw [String.toList_ofList, cut, List.dropWhile_cons_of_pos (by simpa using space)]
    have inner : ((rest.dropWhile EcmaText.isSpace).rdropWhile EcmaText.isSpace).length ≤ rest.length :=
      ((List.rdropWhile_prefix _ _).length_le).trans (List.dropWhile_sublist _).length_le
    rw [List.length_cons]
    omega
  rw [trimmed] at shorter
  exact absurd shorter (Nat.lt_irrefl _)

/-- A key that is built of a prefix without a leading slash is the user's. -/
theorem built_owned (fits : ¬ EcmaText.startsWith (keyPrefix env) "/" = true) :
    isUserMediaObjectKeyOwnedByUser env userId (buildUserMediaObjectKey env userId filename uuid) = true := by
  obtain ⟨first, start, cut, solid, apart⟩ : ∃ first start, (userMediaKeyPrefixForUser env userId).toList =
      first :: start ∧ EcmaText.isSpace first = false ∧ first ≠ '/' := by
    unfold userMediaKeyPrefixForUser withKeyPrefix
    split
    · exact ⟨'u', "sers/".toList ++ (userId ++ "/").toList, by simp, by decide, by decide⟩
    · rename_i some
      cases chars : (keyPrefix env).toList with
      | nil => exact absurd (String.toList_eq_nil_iff.mp chars) some
      | cons first rest =>
        have trimmed : EcmaText.Trimmed (keyPrefix env) := by
          unfold keyPrefix
          split
          · exact EcmaText.trim_empty
          · exact EcmaText.trimmed_trim _
        refine ⟨first, rest ++ ("/" ++ ("users/" ++ userId ++ "/")).toList, ?_, head_solid trimmed chars, ?_⟩
        · rw [String.append_assoc, String.toList_append, chars, List.cons_append]
        · rintro rfl
          apply fits
          unfold EcmaText.startsWith
          rw [chars]
          rfl
  rcases List.eq_nil_or_concat (safeFilename filename).toList with none | ⟨front, last, ends⟩
  · exact absurd (String.toList_eq_nil_iff.mp none) (safeFilename_ne_empty filename)
  · rw [List.concat_eq_append] at ends
    have lastKept : isFilenameChar last = true := by
      apply safeFilename_chars filename
      rw [ends]
      exact List.mem_append_right _ (List.mem_singleton.mpr rfl)
    have chars : (buildUserMediaObjectKey env userId filename uuid).toList =
        first :: ((start ++ (uuid ++ "-").toList ++ front) ++ [last]) := by
      rw [buildUserMediaObjectKey_eq, String.toList_append, String.toList_append, cut, ends]
      simp
    have plain : dropLeadingSlashes (buildUserMediaObjectKey env userId filename uuid) =
        buildUserMediaObjectKey env userId filename uuid := by
      unfold dropLeadingSlashes
      rw [chars, List.dropWhile_cons_of_neg (by simpa using apart), ← chars, String.ofList_toList]
    have trimmed : EcmaText.Trimmed (buildUserMediaObjectKey env userId filename uuid) := by
      rw [← String.ofList_toList (s := buildUserMediaObjectKey env userId filename uuid), chars]
      exact EcmaText.trimmed_of_ends first last _ solid (filenameChar_solid lastKept).1
    have some : buildUserMediaObjectKey env userId filename uuid ≠ "" := by
      intro empty
      rw [empty] at chars
      cases chars
    unfold isUserMediaObjectKeyOwnedByUser
    dsimp only
    rw [plain, trimmed, if_neg some, buildUserMediaObjectKey_eq]
    exact EcmaText.startsWith_append _ _

/-- With a leading slash the check has dropped one slash too many. -/
theorem built_refused (slash : EcmaText.startsWith (keyPrefix env) "/" = true) (plain : '/' ∉ uuid.toList) :
    ¬ isUserMediaObjectKeyOwnedByUser env userId (buildUserMediaObjectKey env userId filename uuid) = true := by
  intro owned
  have named : keyPrefix env ≠ "" := by
    intro empty
    rw [empty] at slash
    exact absurd slash (by decide)
  obtain ⟨rest, cut⟩ : ∃ rest, (buildUserMediaObjectKey env userId filename uuid).toList = '/' :: rest := by
    unfold EcmaText.startsWith at slash
    obtain ⟨rest, cut⟩ := List.isPrefixOf_iff_prefix.mp slash
    unfold buildUserMediaObjectKey withKeyPrefix
    rw [if_neg named, String.append_assoc, String.toList_append, ← cut]
    exact ⟨_, rfl⟩
  have slashes : (buildUserMediaObjectKey env userId filename uuid).toList.count '/' =
      (userMediaKeyPrefixForUser env userId).toList.count '/' := by
    have none : (uuid ++ "-" ++ safeFilename filename).toList.count '/' = 0 := by
      apply List.count_eq_zero.mpr
      simp only [String.toList_append, List.mem_append, not_or]
      exact ⟨⟨plain, by decide⟩, fun inside => (filenameChar_solid (safeFilename_chars _ _ inside)).2 rfl⟩
    rw [buildUserMediaObjectKey_eq, String.toList_append, List.count_append, none, Nat.add_zero]
  have fewer : (EcmaText.trim (dropLeadingSlashes (buildUserMediaObjectKey env userId filename uuid))).toList.count '/' ≤
      rest.count '/' := by
    unfold EcmaText.trim EcmaText.trimChars dropLeadingSlashes
    rw [String.toList_ofList, String.toList_ofList, cut, List.dropWhile_cons_of_pos (by simp)]
    have inner : List.Sublist (((rest.dropWhile fun c => decide (c = '/')).dropWhile EcmaText.isSpace).rdropWhile
        EcmaText.isSpace) rest :=
      ((List.rdropWhile_prefix _ _).sublist.trans (List.dropWhile_sublist _)).trans (List.dropWhile_sublist _)
    exact inner.count_le '/'
  unfold isUserMediaObjectKeyOwnedByUser at owned
  dsimp only at owned
  split at owned
  · cases owned
  · unfold EcmaText.startsWith at owned
    have most := (List.isPrefixOf_iff_prefix.mp owned).sublist.count_le '/'
    rw [cut, List.count_cons_self] at slashes
    omega

end Built

section Contract

/-- The folders of two users are disjoint; a built key is the user's exactly when the key prefix has no leading
slash, and the stored URL of an accepted key is that of an object in the folder exactly when the key is confined. -/
theorem media_key_stays_iff (env : StorageEnv) {userU userV : String} (different : userU ≠ userV)
    (plainU : '/' ∉ userU.toList) (plainV : '/' ∉ userV.toList) (filename : String) {uuid : String}
    (plainUuid : '/' ∉ uuid.toList) (key : String) :
    StaysInFolder env userU userV filename uuid key ↔
      ¬ EcmaText.startsWith (keyPrefix env) "/" = true ∧
        (isUserMediaObjectKeyOwnedByUser env userU key = true → (publicObjectUrl env key).isSome = true →
          Confined env userU key) := by
  constructor
  · intro stays
    constructor
    · intro slash
      exact built_refused slash plainUuid stays.built
    · intro owned configured
      obtain ⟨url, made⟩ := Option.isSome_iff_exists.mp configured
      have stored : profilePictureOfMediaKey env userU key = some url := by
        unfold profilePictureOfMediaKey
        rw [if_pos owned, made, Option.getD_some]
      exact (denotesUnder_iff_confined made).mp (stays.confined url stored made)
  · rintro ⟨fits, confined⟩
    constructor
    · exact owned_exclusive different plainU plainV
    · exact built_owned fits
    · intro url stored made
      have owned : isUserMediaObjectKeyOwnedByUser env userU key = true := by
        by_contra refused
        unfold profilePictureOfMediaKey at stored
        rw [if_neg refused] at stored
        cases stored
      exact (denotesUnder_iff_confined made).mpr (confined owned (made ▸ rfl))

theorem localBase_plain : ∀ c ∈ "http://localhost:9000".toList, c ≠ '?' ∧ c ≠ '#' := by
  have plain : ("http://localhost:9000".toList.all fun c => decide (c ≠ '?' ∧ c ≠ '#')) = true := by decide
  intro c inside
  exact of_decide_eq_true (List.all_eq_true.mp plain c inside)

theorem localBase_hierarchical : 3 ≤ ((dropFinalSlash "http://localhost:9000").toList.splitOn '/').length := by
  decide

def localBase : PublicBaseUrl := ⟨"http://localhost:9000", localBase_plain, localBase_hierarchical⟩

def localEnv : StorageEnv where
  S3_PUBLIC_BASE_URL := some localBase
  S3_BUCKET := some "media"

/-- A plain key of the user is confined. -/
theorem media_key_stays_iff_avatar : StaysInFolder localEnv "u1" "u2" "my photo.png" "uuid" "users/u1/avatar.png" := by
  apply (media_key_stays_iff localEnv (by decide) (by decide) (by decide) "my photo.png" (by decide) _).mpr
  refine ⟨by decide, fun _ _ => ?_⟩
  unfold Confined
  rw [if_neg (by decide)]
  decide

/-- A key that climbs out of the user's folder is accepted, and its URL is that of another user's object. -/
theorem climbing_key_leaves_folder :
    ¬ ∀ (env : StorageEnv) (userU userV filename uuid key : String), userU ≠ userV → '/' ∉ userU.toList →
      '/' ∉ userV.toList → '/' ∉ uuid.toList → StaysInFolder env userU userV filename uuid key := by
  intro promised
  have stays := promised localEnv "u1" "u2" "a.png" "uuid" "users/u1/../u2/avatar.png" (by decide) (by decide)
    (by decide) (by decide)
  have owned : isUserMediaObjectKeyOwnedByUser localEnv "u1" "users/u1/../u2/avatar.png" = true := by decide
  obtain ⟨url, made⟩ : ∃ url, publicObjectUrl localEnv "users/u1/../u2/avatar.png" = some url := ⟨_, rfl⟩
  have stored : profilePictureOfMediaKey localEnv "u1" "users/u1/../u2/avatar.png" = some url := by
    unfold profilePictureOfMediaKey
    rw [if_pos owned, made, Option.getD_some]
  obtain ⟨inside, -, here⟩ := (denotesUnder_iff made).mp (stays.confined url stored made) localBase "media" rfl rfl
    (by decide)
  have landed : landing (bucketRoot localBase "media") "users/u1/../u2/avatar.png" =
      ["media".toList, "users".toList, "u2".toList, "avatar.png".toList] := by decide
  have folder : bucketRoot localBase "media" ++ (userFolder localEnv "u1").map encodeSegment =
      ["media".toList, "users".toList, "u1".toList] := by decide
  rw [landed, folder] at here
  simp at here

end Contract

end MessagingSystem.Guarantees.MediaKeys
