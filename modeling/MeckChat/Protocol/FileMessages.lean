import MeckChat.Qt.QJson

/-!
The messages of a file transfer (`models.cpp`): offers, replies, chunks, and
the names and ids in them.

* `sanitizeFileName` and `generateTransferId` as in the source; `file_names_safe`
  is about the former.
* `FileOffer`, `FileAccept`, `FileReject`, `FileComplete` and `FileCancel` with
  `toJson` and `fromJson`, each with its round trip.
* `FileChunk.encode` and `FileChunk.decode`, the latter in `Checked` since it
  reads raw memory and adds `int` values. `IsChunkId` is what the sixteen bytes
  of the id field carry without loss, which the ids that are drawn are
  (`isChunkId_generateTransferId`).
* `FileChunk.decode_fields` is the decoder on a packet given by its fields; the
  round trip `decode_encode`, `decode_truncated` and `decode_extended` follow
  from it, and `FileChunk.codec` puts them together.
-/

namespace MeckChat.Protocol

open QJson

/-- `DEFAULT_FILE_CHUNK_SIZE`, 64 KiB. -/
def DEFAULT_FILE_CHUNK_SIZE : ℤ := 65536

/-- `generateTransferId`, on the text of the UUID it draws. -/
def generateTransferId (uuid : String) : String :=
  "ft_" ++ QString.left 13 (QString.remove '-' uuid)

/-- `sanitizeFileName`. -/
def sanitizeFileName (rawName : String) : String :=
  let normalized := QString.replaceChar '\\' '/' rawName
  let clean := QString.fileName normalized
  let clean := QString.remove '/' clean
  let clean := QString.remove '\\' clean
  let clean := QString.removeDotDot clean
  let clean := QString.trimmed clean
  if clean = "" ∨ clean = "." ∨ clean = ".." then "received_file" else clean

/-- A single component of a path, and not one that stands for another
directory. -/
structure IsComponent (name : String) : Prop where
  ne_empty : name ≠ ""
  no_slash : '/' ∉ name.toList
  ne_dot : name ≠ "."
  ne_dotdot : name ≠ ".."

lemma isComponent_sanitizeFileName (rawName : String) : IsComponent (sanitizeFileName rawName) := by
  rw [sanitizeFileName]
  split_ifs with h
  · exact ⟨by decide, by decide, by decide, by decide⟩
  · rw [not_or, not_or] at h
    refine ⟨h.1, fun hslash => ?_, h.2.1, h.2.2⟩
    have hbackslash := QString.mem_toList_removeDotDot (QString.mem_toList_trimmed hslash)
    exact (QString.mem_toList_remove.mp (QString.mem_toList_remove.mp hbackslash).1).2 rfl

/-- A name that is safe to show, and to join to the path of a directory. -/
structure IsSafeName (name : String) : Prop extends IsComponent name where
  no_backslash : '\\' ∉ name.toList
  no_pair : ¬ ['.', '.'] <:+: name.toList
  head : ∀ c ∈ name.toList.head?, QString.isSpace c = false
  last : ∀ c ∈ name.toList.getLast?, QString.isSpace c = false

lemma isSafeName_received_file : IsSafeName "received_file" where
  ne_empty := by decide
  no_slash := by decide
  ne_dot := by decide
  ne_dotdot := by decide
  no_backslash := by decide
  no_pair := by decide
  head := by
    rintro c ⟨⟩
    decide
  last := by
    rintro c ⟨⟩
    decide

/-- What is left behind every step of the sanitising is safe, unless it is empty or a dot. -/
lemma isSafeName_sanitizeFileName (rawName : String) : IsSafeName (sanitizeFileName rawName) := by
  have hcomponent := isComponent_sanitizeFileName rawName
  refine ⟨hcomponent, ?_, ?_, ?_, ?_⟩ <;> rw [sanitizeFileName]
  · split_ifs
    · exact isSafeName_received_file.no_backslash
    · intro hmem
      have hremoved := QString.mem_toList_removeDotDot (QString.mem_toList_trimmed hmem)
      exact (QString.mem_toList_remove.mp hremoved).2 rfl
  · split_ifs
    · exact isSafeName_received_file.no_pair
    · intro hpair
      have hbefore := hpair.trans (QString.trimmed_infix _)
      rw [QString.removeDotDot, String.toList_ofList] at hbefore
      exact QString.dropDotDot_no_pair _ hbefore
  · split_ifs
    · exact isSafeName_received_file.head
    · exact fun c hc => QString.isSpace_head?_trimmed hc
  · split_ifs
    · exact isSafeName_received_file.last
    · exact fun c hc => QString.isSpace_getLast?_trimmed hc

lemma sanitizeFileName_eq_self {name : String} (h : IsSafeName name) :
    sanitizeFileName name = name := by
  have htrimmed : QString.trimmed name = name := by
    have heq := QString.trimmed_eq_self h.head h.last
    rwa [String.ofList_toList] at heq
  rw [sanitizeFileName, QString.replaceChar_eq_self '/' h.no_backslash,
    QString.fileName_eq_self h.no_slash, QString.remove_eq_self h.no_slash,
    QString.remove_eq_self h.no_backslash, QString.removeDotDot_eq_self h.no_pair, htrimmed]
  exact if_neg (by simp [h.ne_empty, h.ne_dot, h.ne_dotdot])

lemma sanitizeFileName_sanitizeFileName (rawName : String) :
    sanitizeFileName (sanitizeFileName rawName) = sanitizeFileName rawName :=
  sanitizeFileName_eq_self (isSafeName_sanitizeFileName rawName)

/-! ### Messages in JSON -/

/-- `FileOffer`. -/
structure FileOffer where
  transferId : String
  fileName : String
  fileSize : ℤ
  sha256 : String
  chunkSize : ℤ
  totalChunks : ℤ
  deriving DecidableEq, Repr

/-- `FileOffer::toJson`: the name is sanitised, and a chunk size that is not positive is
the default one. -/
def FileOffer.toJson (m : FileOffer) : JsonObject :=
  (∅ : JsonObject)
    |>.insert "transfer_id" (.string m.transferId)
    |>.insert "file_name" (.string (sanitizeFileName m.fileName))
    |>.insert "file_size" (.integer m.fileSize)
    |>.insert "sha256" (.string m.sha256)
    |>.insert "chunk_size" (.integer (if m.chunkSize > 0 then m.chunkSize
        else DEFAULT_FILE_CHUNK_SIZE))
    |>.insert "total_chunks" (.integer m.totalChunks)

/-- `FileOffer::fromJson`: the name is sanitised. -/
def FileOffer.fromJson (json : JsonObject) : Option FileOffer :=
  let tid := toString (json.value? "transfer_id")
  let name := sanitizeFileName (toString (json.value? "file_name"))
  let size := toInteger (json.value? "file_size")
  let hash := toString (json.value? "sha256")
  if tid = "" ∨ name = "" ∨ size < 0 ∨ hash = "" then none
  else some {
    transferId := tid
    fileName := name
    fileSize := size
    sha256 := hash
    chunkSize := toInt (json.value? "chunk_size") DEFAULT_FILE_CHUNK_SIZE
    totalChunks := toInt (json.value? "total_chunks") 0 }

/-- `FileAccept`. -/
structure FileAccept where
  transferId : String
  deriving DecidableEq, Repr

/-- `FileAccept::toJson`. -/
def FileAccept.toJson (m : FileAccept) : JsonObject :=
  (∅ : JsonObject).insert "transfer_id" (.string m.transferId)

/-- `FileAccept::fromJson`. -/
def FileAccept.fromJson (json : JsonObject) : Option FileAccept :=
  let tid := toString (json.value? "transfer_id")
  if tid = "" then none else some ⟨tid⟩

/-- `FileReject`. -/
structure FileReject where
  transferId : String
  reason : String
  deriving DecidableEq, Repr

/-- `FileReject::toJson`. -/
def FileReject.toJson (m : FileReject) : JsonObject :=
  (∅ : JsonObject).insert "transfer_id" (.string m.transferId) |>.insert "reason" (.string m.reason)

/-- `FileReject::fromJson`: a reason that is missing is `user_rejected`. -/
def FileReject.fromJson (json : JsonObject) : Option FileReject :=
  let tid := toString (json.value? "transfer_id")
  if tid = "" then none else some ⟨tid, toString (json.value? "reason") "user_rejected"⟩

/-- `FileComplete`. -/
structure FileComplete where
  transferId : String
  sha256 : String
  status : String
  deriving DecidableEq, Repr

/-- `FileComplete::toJson`. -/
def FileComplete.toJson (m : FileComplete) : JsonObject :=
  (∅ : JsonObject)
    |>.insert "transfer_id" (.string m.transferId)
    |>.insert "sha256" (.string m.sha256)
    |>.insert "status" (.string m.status)

/-- `FileComplete::fromJson`: a status that is missing is `verified`. -/
def FileComplete.fromJson (json : JsonObject) : Option FileComplete :=
  let tid := toString (json.value? "transfer_id")
  let hash := toString (json.value? "sha256")
  if tid = "" ∨ hash = "" then none
  else some ⟨tid, hash, toString (json.value? "status") "verified"⟩

/-- `FileCancel`. -/
structure FileCancel where
  transferId : String
  reason : String
  deriving DecidableEq, Repr

/-- `FileCancel::toJson`. -/
def FileCancel.toJson (m : FileCancel) : JsonObject :=
  (∅ : JsonObject).insert "transfer_id" (.string m.transferId) |>.insert "reason" (.string m.reason)

/-- `FileCancel::fromJson`: a reason that is missing is `cancelled`. -/
def FileCancel.fromJson (json : JsonObject) : Option FileCancel :=
  let tid := toString (json.value? "transfer_id")
  if tid = "" then none else some ⟨tid, toString (json.value? "reason") "cancelled"⟩

/-- What is checked of an offer. -/
lemma FileOffer.of_fromJson {json : JsonObject} {m : FileOffer}
    (h : FileOffer.fromJson json = some m) :
    m.transferId ≠ "" ∧ (∃ name, m.fileName = sanitizeFileName name) ∧ 0 ≤ m.fileSize ∧
      m.sha256 ≠ "" := by
  rw [FileOffer.fromJson] at h
  by_cases hbad : toString (json.value? "transfer_id") = "" ∨
      sanitizeFileName (toString (json.value? "file_name")) = "" ∨
      toInteger (json.value? "file_size") < 0 ∨ toString (json.value? "sha256") = ""
  · rw [if_pos hbad] at h
    cases h
  · rw [if_neg hbad, Option.some.injEq] at h
    rw [not_or, not_or, not_or, not_lt] at hbad
    obtain ⟨hid, -, hsize, hsha⟩ := hbad
    cases m
    rw [FileOffer.mk.injEq] at h
    obtain ⟨rfl, hname, rfl, rfl, -, -⟩ := h
    exact ⟨hid, ⟨_, hname.symm⟩, hsize, hsha⟩

/-- An offer comes back with its name sanitised a second time. -/
lemma FileOffer.fromJson_toJson {m : FileOffer} (hid : m.transferId ≠ "") (hsize : 0 ≤ m.fileSize)
    (hsha : m.sha256 ≠ "") (hchunk : 0 < m.chunkSize ∧ m.chunkSize < 2 ^ 31)
    (htotal : -2 ^ 31 ≤ m.totalChunks ∧ m.totalChunks < 2 ^ 31) :
    FileOffer.fromJson m.toJson =
      some { m with fileName := sanitizeFileName (sanitizeFileName m.fileName) } := by
  have hname := (isComponent_sanitizeFileName (sanitizeFileName m.fileName)).ne_empty
  have hc := toInt_integer (n := m.chunkSize) (d := DEFAULT_FILE_CHUNK_SIZE) (by omega)
  have ht := toInt_integer (n := m.totalChunks) (d := 0) htotal
  have hneg : ¬ m.fileSize < 0 := by omega
  simp [FileOffer.fromJson, FileOffer.toJson, QMap.value?_insert, hid, hname, hneg, hsha, hc, ht,
    hchunk.1]

lemma FileAccept.fromJson_toJson {m : FileAccept} (hid : m.transferId ≠ "") :
    FileAccept.fromJson m.toJson = some m := by
  simp [FileAccept.fromJson, FileAccept.toJson, hid]

lemma FileReject.fromJson_toJson {m : FileReject} (hid : m.transferId ≠ "") :
    FileReject.fromJson m.toJson = some m := by
  simp [FileReject.fromJson, FileReject.toJson, QMap.value?_insert, hid]

lemma FileComplete.fromJson_toJson {m : FileComplete} (hid : m.transferId ≠ "")
    (hsha : m.sha256 ≠ "") : FileComplete.fromJson m.toJson = some m := by
  simp [FileComplete.fromJson, FileComplete.toJson, QMap.value?_insert, hid, hsha]

lemma FileCancel.fromJson_toJson {m : FileCancel} (hid : m.transferId ≠ "") :
    FileCancel.fromJson m.toJson = some m := by
  simp [FileCancel.fromJson, FileCancel.toJson, QMap.value?_insert, hid]

/-- **File names.** Every name comes out safe, a second time it stays as it is, the names that stay
are the safe ones, and the name in an offer that arrives is one of them. -/
theorem file_names_safe :
    (∀ rawName, IsSafeName (sanitizeFileName rawName)) ∧
      (∀ rawName, sanitizeFileName (sanitizeFileName rawName) = sanitizeFileName rawName) ∧
      (∀ name, sanitizeFileName name = name ↔ IsSafeName name) ∧
      ∀ json m, FileOffer.fromJson json = some m → sanitizeFileName m.fileName = m.fileName := by
  refine ⟨isSafeName_sanitizeFileName, sanitizeFileName_sanitizeFileName,
    fun name => ⟨fun h => ?_, sanitizeFileName_eq_self⟩, fun json m h => ?_⟩
  · rw [← h]
    exact isSafeName_sanitizeFileName name
  · obtain ⟨-, ⟨name, hname⟩, -, -⟩ := FileOffer.of_fromJson h
    rw [hname]
    exact sanitizeFileName_sanitizeFileName name

/-! ### File chunks -/

/-- `FileChunk::encode`: the id cut or padded to sixteen bytes, the index, the
size, and the bytes. -/
def FileChunk.encode (transferId : String) (chunkIndex : UInt32) (chunkData : Bytes) : Bytes :=
  let tidBytes := (QString.toUtf8 transferId).take 16
  (tidBytes ++ List.replicate (16 - tidBytes.length) 0) ++
    (be32 chunkIndex ++ (be32 (UInt32.ofNat chunkData.length) ++ chunkData))

/-- What `FileChunk::decode` leaves in its reference parameters. -/
structure FileChunk where
  transferId : String
  chunkIndex : UInt32
  chunkData : Bytes
  deriving DecidableEq, Repr

/-- The id field of a chunk, up to the first NUL. -/
def FileChunk.readId (field : Bytes) : String :=
  QString.upTo (Char.ofNat 0) (QString.trimmed (QString.fromUtf8 field))

/-- `FileChunk::decode`. -/
def FileChunk.decode (rawBytes : Bytes) : Checked (Option FileChunk) := do
  if rawBytes.length < 24 then
    return none
  let transferId := FileChunk.readId (← readSlice rawBytes 0 16)
  if transferId = "" then
    return none
  let chunkIndex ← readBE32 rawBytes 16
  let chunkSize ← readBE32 rawBytes 20
  let total ← addInt 24 chunkSize.toInt32.toInt
  if (rawBytes.length : ℤ) ≠ total then
    return none
  return some ⟨transferId, chunkIndex, slice rawBytes 24 chunkSize.toNat⟩

/-- The decoder as its caller sees it. A sum that overflows comes out negative
on the machines the program runs on, and no size is equal to it. -/
def FileChunk.decodePacket (rawBytes : Bytes) : Option FileChunk :=
  match FileChunk.decode rawBytes with
  | .ok r => r
  | .error _ => none

/-- The ids that the sixteen bytes carry without loss. -/
structure IsChunkId (tid : String) : Prop where
  ne_empty : tid ≠ ""
  size_le : (QString.toUtf8 tid).length ≤ 16
  no_nul : ∀ c ∈ tid.toList, c ≠ Char.ofNat 0
  no_mark : tid.toList.head? ≠ some QString.byteOrderMark
  head_not_space : ∀ c ∈ tid.toList.head?, QString.isSpace c = false
  last_not_space : ∀ c ∈ tid.toList.getLast?, QString.isSpace c = false

/-- A text that `QUuid::toString` can yield: lower-case hexadecimal digits apart
from the dashes, at least thirteen of them. -/
structure IsUuid (uuid : String) : Prop where
  length : 13 ≤ (QString.remove '-' uuid).toList.length
  digits : ∀ c ∈ (QString.remove '-' uuid).toList, c ∈ "0123456789abcdef".toList

lemma hexDigits_plain : ∀ c ∈ "0123456789abcdef".toList,
    (String.utf8EncodeChar c).length = 1 ∧ c ≠ Char.ofNat 0 ∧ QString.isSpace c = false :=
  List.forall_iff_forall_mem.mp (by decide)

lemma toList_generateTransferId (uuid : String) :
    (generateTransferId uuid).toList =
      'f' :: 't' :: '_' :: (QString.remove '-' uuid).toList.take 13 := by
  simp [generateTransferId, QString.left]

lemma length_toUtf8_of_plain {cs : List Char} (h : ∀ c ∈ cs, (String.utf8EncodeChar c).length = 1) :
    (cs.flatMap String.utf8EncodeChar).length = cs.length := by
  induction cs with
  | nil => rfl
  | cons c cs ih =>
      rw [List.flatMap_cons, List.length_append, h c (by simp),
        ih fun d hd => h d (List.mem_cons_of_mem _ hd), List.length_cons]
      omega

/-- The ids that are drawn survive the id field of a chunk. -/
lemma isChunkId_generateTransferId {uuid : String} (h : IsUuid uuid) :
    IsChunkId (generateTransferId uuid) := by
  have hlist := toList_generateTransferId uuid
  have hplain : ∀ c ∈ (generateTransferId uuid).toList,
      (String.utf8EncodeChar c).length = 1 ∧ c ≠ Char.ofNat 0 ∧ QString.isSpace c = false := by
    intro c hc
    rw [hlist, List.mem_cons, List.mem_cons, List.mem_cons] at hc
    rcases hc with rfl | rfl | rfl | hc
    · decide
    · decide
    · decide
    · exact hexDigits_plain c (h.digits c (List.mem_of_mem_take hc))
  have hlength : (generateTransferId uuid).toList.length = 16 := by
    rw [hlist, List.length_cons, List.length_cons, List.length_cons, List.length_take,
      min_eq_left h.length]
  refine ⟨?_, ?_, fun c hc => (hplain c hc).2.1, ?_, ?_, ?_⟩
  · intro hempty
    rw [hempty] at hlist
    simp at hlist
  · rw [QString.toUtf8, length_toUtf8_of_plain fun c hc => (hplain c hc).1, hlength]
  · rw [hlist, List.head?_cons]
    decide
  · intro c hc
    exact (hplain c (List.mem_of_mem_head? hc)).2.2
  · intro c hc
    exact (hplain c (List.mem_of_getLast? hc)).2.2

lemma decodeUtf8_zeros (k fuel : ℕ) :
    QString.decodeUtf8 (k + fuel) (List.replicate k 0) = List.replicate k (Char.ofNat 0) := by
  induction k with
  | zero => rw [List.replicate_zero, QString.decodeUtf8_nil, List.replicate_zero]
  | succ k ih =>
      have henc : String.utf8EncodeChar (Char.ofNat 0) = [0] := by decide
      have h := QString.decodeUtf8_encode_append (Char.ofNat 0) (List.replicate k 0) (k + fuel)
      rw [henc, List.singleton_append] at h
      rw [List.replicate_succ, show k + 1 + fuel = k + fuel + 1 by omega, h, ih,
        List.replicate_succ]

/-- The id field gives the id back. -/
lemma FileChunk.readId_pad {tid : String} (h : IsChunkId tid) :
    FileChunk.readId (QString.toUtf8 tid ++
      List.replicate (16 - (QString.toUtf8 tid).length) 0) = tid := by
  set pad := 16 - (QString.toUtf8 tid).length with hpad
  have hsize := h.size_le
  have hchars : tid.toList.length ≤ (QString.toUtf8 tid).length :=
    QString.length_le_length_toUtf8 tid.toList
  have hne : tid.toList ≠ [] := fun hnil => h.ne_empty (String.toList_eq_nil_iff.mp hnil)
  have hdecode : QString.decodeUtf8 (QString.toUtf8 tid ++ List.replicate pad 0).length
      (QString.toUtf8 tid ++ List.replicate pad 0) =
      tid.toList ++ List.replicate pad (Char.ofNat 0) := by
    rw [List.length_append, List.length_replicate,
      show (QString.toUtf8 tid).length + pad = tid.toList.length +
        (pad + ((QString.toUtf8 tid).length - tid.toList.length)) by omega,
      QString.toUtf8, QString.decodeUtf8_toUtf8_append, ← QString.toUtf8, decodeUtf8_zeros]
  have hhead : (tid.toList ++ List.replicate pad (Char.ofNat 0)).head? = tid.toList.head? :=
    List.head?_append_of_ne_nil _ hne
  have hutf8 : QString.fromUtf8 (QString.toUtf8 tid ++ List.replicate pad 0) =
      String.ofList (tid.toList ++ List.replicate pad (Char.ofNat 0)) := by
    simp only [QString.fromUtf8, hdecode, hhead, if_neg h.no_mark]
  have htrim : QString.trimmed (String.ofList (tid.toList ++ List.replicate pad (Char.ofNat 0))) =
      String.ofList (tid.toList ++ List.replicate pad (Char.ofNat 0)) := by
    apply QString.trimmed_eq_self
    · rw [hhead]
      exact h.head_not_space
    · intro c hc
      rw [List.getLast?_append] at hc
      cases hp : (List.replicate pad (Char.ofNat 0)).getLast? with
      | none =>
          rw [hp, Option.none_or] at hc
          exact h.last_not_space c hc
      | some d =>
          have hd : d = Char.ofNat 0 := List.eq_of_mem_replicate (List.mem_of_getLast? hp)
          rw [hp, Option.some_or, Option.mem_some_iff] at hc
          rw [← hc, hd]
          decide
  have hupTo : (tid.toList ++ List.replicate pad (Char.ofNat 0)).takeWhile (· ≠ Char.ofNat 0) =
      tid.toList := by
    rw [List.takeWhile_append_of_pos (by simpa using h.no_nul)]
    cases pad <;> simp [List.replicate_succ]
  rw [FileChunk.readId, hutf8, htrim, QString.upTo, String.toList_ofList, hupTo,
    String.ofList_toList]

/-! ### What the decoder reads -/

/-- The sixteen bytes that `encode` writes for an id. -/
def FileChunk.idField (transferId : String) : Bytes :=
  let tidBytes := (QString.toUtf8 transferId).take 16
  tidBytes ++ List.replicate (16 - tidBytes.length) 0

@[simp] lemma FileChunk.length_idField (tid : String) : (FileChunk.idField tid).length = 16 := by
  have htake : ((QString.toUtf8 tid).take 16).length ≤ 16 := List.length_take_le _ _
  rw [FileChunk.idField, List.length_append, List.length_replicate]
  omega

/-- The fields of an encoding, in order. -/
lemma FileChunk.encode_eq (tid : String) (chunkIndex : UInt32) (chunkData : Bytes) :
    FileChunk.encode tid chunkIndex chunkData = FileChunk.idField tid ++
      (be32 chunkIndex ++ (be32 (UInt32.ofNat chunkData.length) ++ chunkData)) := rfl

@[simp] lemma FileChunk.length_encode (tid : String) (chunkIndex : UInt32) (chunkData : Bytes) :
    (FileChunk.encode tid chunkIndex chunkData).length = 24 + chunkData.length := by
  rw [FileChunk.encode_eq, List.length_append, List.length_append, List.length_append,
    length_be32, length_be32, FileChunk.length_idField]
  omega

/-- Past its two early exits the decoder compares the length with the sum of
the header and the size field. -/
lemma FileChunk.decode_eq {raw : Bytes} (hlen : 24 ≤ raw.length)
    (hid : FileChunk.readId (slice raw 0 16) ≠ "") :
    FileChunk.decode raw =
      (addInt 24 (ofBE32 (slice raw 20 4)).toInt32.toInt >>= fun total =>
        if (raw.length : ℤ) ≠ total then .ok none
        else .ok (some ⟨FileChunk.readId (slice raw 0 16), ofBE32 (slice raw 16 4),
          slice raw 24 (ofBE32 (slice raw 20 4)).toNat⟩)) := by
  rw [FileChunk.decode, if_neg (by omega), readSlice_ok (by omega), Checked.ok_bind, if_neg hid,
    readBE32_ok (show 16 + 4 ≤ raw.length by omega),
    readBE32_ok (show 20 + 4 ≤ raw.length by omega), Checked.ok_bind, Checked.ok_bind]
  rfl

/-- The decoder on a packet given by its fields, as long as the size field
leaves room for the header. -/
lemma FileChunk.decode_fields {field rest : Bytes} (hfield : field.length = 16)
    (hid : FileChunk.readId field ≠ "") (chunkIndex : UInt32) {size : UInt32}
    (hsize : size.toNat < 2 ^ 31 - 24) :
    FileChunk.decode (field ++ (be32 chunkIndex ++ (be32 size ++ rest))) =
      .ok (if rest.length = size.toNat then some ⟨FileChunk.readId field, chunkIndex, rest⟩
        else none) := by
  obtain ⟨raw, hraw⟩ : ∃ raw, raw = field ++ (be32 chunkIndex ++ (be32 size ++ rest)) := ⟨_, rfl⟩
  have hlen : raw.length = 24 + rest.length := by
    simp only [hraw, List.length_append, hfield, length_be32]
    omega
  have hslice : slice raw 0 16 = field := slice_eq_of_append (a := []) hraw rfl hfield
  have hindex : slice raw 16 4 = be32 chunkIndex :=
    slice_eq_of_append hraw hfield (length_be32 _)
  have hsizes : slice raw 20 4 = be32 size := by
    rw [← List.append_assoc] at hraw
    exact slice_eq_of_append hraw (by simp [hfield]) (length_be32 _)
  have hbody : slice raw 24 rest.length = rest := by
    rw [← List.append_assoc, ← List.append_assoc, ← List.append_nil rest] at hraw
    exact slice_eq_of_append hraw (by simp [hfield]) (by simp)
  have hadd : addInt 24 size.toInt32.toInt = .ok (24 + size.toNat) := by
    rw [toInt_toInt32, if_pos (by omega), addInt_ok (by omega)]
  rw [← hraw, FileChunk.decode_eq (by omega) (by rw [hslice]; exact hid), hslice, hindex, hsizes,
    ofBE32_be32, ofBE32_be32, hadd, Checked.ok_bind, hlen]
  by_cases heq : rest.length = size.toNat
  · rw [if_neg (by push_cast; omega), if_pos heq, ← heq, hbody]
  · rw [if_pos (by push_cast; omega), if_neg heq]

/-- An id of at most sixteen bytes is written in full. -/
lemma FileChunk.readId_idField {tid : String} (h : IsChunkId tid) :
    FileChunk.readId (FileChunk.idField tid) = tid := by
  have hpad := FileChunk.readId_pad h
  rw [FileChunk.idField, List.take_of_length_le h.size_le]
  exact hpad

/-! ### The chunk codec -/

/-- The decoder on an encoding whose id field is not blank: what it reads off
the field need not be the id that was written. -/
lemma FileChunk.decode_encode_of_readId {tid : String}
    (hid : FileChunk.readId (FileChunk.idField tid) ≠ "") (chunkIndex : UInt32)
    {chunkData : Bytes} (hdata : chunkData.length < 2 ^ 31 - 24) :
    FileChunk.decode (FileChunk.encode tid chunkIndex chunkData) =
      .ok (some ⟨FileChunk.readId (FileChunk.idField tid), chunkIndex, chunkData⟩) := by
  have hnat : (UInt32.ofNat chunkData.length).toNat = chunkData.length := by
    rw [UInt32.toNat_ofNat']
    omega
  rw [FileChunk.encode_eq, FileChunk.decode_fields (FileChunk.length_idField tid) hid chunkIndex
    (by omega), if_pos hnat.symm]

/-- **Round trip of chunks.** -/
theorem FileChunk.decode_encode {tid : String} (h : IsChunkId tid) (chunkIndex : UInt32)
    {chunkData : Bytes} (hdata : chunkData.length < 2 ^ 31 - 24) :
    FileChunk.decode (FileChunk.encode tid chunkIndex chunkData) =
      .ok (some ⟨tid, chunkIndex, chunkData⟩) := by
  have hread := FileChunk.readId_idField h
  have hne : FileChunk.readId (FileChunk.idField tid) ≠ "" := by
    rw [hread]
    exact h.ne_empty
  rw [FileChunk.decode_encode_of_readId hne chunkIndex hdata, hread]

/-- The size field pins the length: a packet with the header of an encoding and
another number of bytes behind it is refused. -/
lemma FileChunk.decode_other_length {tid : String} (h : IsChunkId tid) (chunkIndex : UInt32)
    {chunkData : Bytes} (hdata : chunkData.length < 2 ^ 31 - 24) {rest : Bytes}
    (hrest : rest.length ≠ chunkData.length) :
    FileChunk.decode (FileChunk.idField tid ++
      (be32 chunkIndex ++ (be32 (UInt32.ofNat chunkData.length) ++ rest))) = .ok none := by
  have hnat : (UInt32.ofNat chunkData.length).toNat = chunkData.length := by
    rw [UInt32.toNat_ofNat']
    omega
  have hid : FileChunk.readId (FileChunk.idField tid) ≠ "" := by
    rw [FileChunk.readId_idField h]
    exact h.ne_empty
  rw [FileChunk.decode_fields (FileChunk.length_idField tid) hid chunkIndex (by omega),
    if_neg (by rw [hnat]; exact hrest)]

/-- No proper prefix of an encoding is accepted. -/
lemma FileChunk.decode_truncated {tid : String} (h : IsChunkId tid) (chunkIndex : UInt32)
    {chunkData : Bytes} (hdata : chunkData.length < 2 ^ 31 - 24) {p : Bytes}
    (hp : p <+: FileChunk.encode tid chunkIndex chunkData)
    (hne : p ≠ FileChunk.encode tid chunkIndex chunkData) : FileChunk.decode p = .ok none := by
  have hlt : p.length < (FileChunk.encode tid chunkIndex chunkData).length :=
    lt_of_le_of_ne hp.length_le fun heq => hne (hp.eq_of_length heq)
  rw [FileChunk.length_encode] at hlt
  by_cases h24 : p.length < 24
  · rw [FileChunk.decode, if_pos h24, Checked.pure_eq]
  -- the header is complete, so `p` differs from the encoding in its data alone
  obtain ⟨header, hheader⟩ : ∃ header, header = FileChunk.idField tid ++
      (be32 chunkIndex ++ be32 (UInt32.ofNat chunkData.length)) := ⟨_, rfl⟩
  have hlen : header.length = 24 := by
    simp only [hheader, List.length_append, FileChunk.length_idField, length_be32]
  have henc : FileChunk.encode tid chunkIndex chunkData = header ++ chunkData := by
    simp only [FileChunk.encode_eq, hheader, List.append_assoc]
  have hpre : header <+: p := by
    have hwhole : header <+: FileChunk.encode tid chunkIndex chunkData := ⟨chunkData, henc.symm⟩
    exact List.prefix_of_prefix_length_le hwhole hp (by omega)
  obtain ⟨rest, rfl⟩ := hpre
  rw [List.length_append, hlen] at hlt
  have hne : rest.length ≠ chunkData.length := by omega
  have hother := FileChunk.decode_other_length h chunkIndex hdata hne
  rw [hheader, List.append_assoc, List.append_assoc]
  exact hother

/-- No proper extension of an encoding is accepted. -/
lemma FileChunk.decode_extended {tid : String} (h : IsChunkId tid) (chunkIndex : UInt32)
    {chunkData : Bytes} (hdata : chunkData.length < 2 ^ 31 - 24) {e : Bytes} (he : e ≠ []) :
    FileChunk.decode (FileChunk.encode tid chunkIndex chunkData ++ e) = .ok none := by
  have hpos : 0 < e.length := List.length_pos_of_ne_nil he
  rw [FileChunk.encode_eq, List.append_assoc, List.append_assoc, List.append_assoc]
  apply FileChunk.decode_other_length h chunkIndex hdata
  rw [List.length_append]
  omega

/-- **The chunk codec.** For an id that its field carries and data short enough
for the size field, decoding gives the three values back, the packet is as long
as its header and its data, and no other packet on the same line of prefixes is
accepted. -/
theorem FileChunk.codec {tid : String} (h : IsChunkId tid) (chunkIndex : UInt32)
    {chunkData : Bytes} (hdata : chunkData.length < 2 ^ 31 - 24) :
    FileChunk.decode (FileChunk.encode tid chunkIndex chunkData) =
        .ok (some ⟨tid, chunkIndex, chunkData⟩) ∧
      (FileChunk.encode tid chunkIndex chunkData).length = 24 + chunkData.length ∧
      (∀ p, p <+: FileChunk.encode tid chunkIndex chunkData →
        p ≠ FileChunk.encode tid chunkIndex chunkData → FileChunk.decode p = .ok none) ∧
      ∀ e, e ≠ [] →
        FileChunk.decode (FileChunk.encode tid chunkIndex chunkData ++ e) = .ok none := by
  refine ⟨FileChunk.decode_encode h chunkIndex hdata, FileChunk.length_encode _ _ _, ?_, ?_⟩
  · intro p hp hne
    exact FileChunk.decode_truncated h chunkIndex hdata hp hne
  · intro e he
    exact FileChunk.decode_extended h chunkIndex hdata he

/-- The codec at an id of one letter and a chunk of two bytes. -/
theorem FileChunk.codec_letter :
    FileChunk.decode (FileChunk.encode "a" 0 [1, 2]) = .ok (some ⟨"a", 0, [1, 2]⟩) ∧
      (FileChunk.encode "a" 0 [1, 2]).length = 26 ∧
      (∀ p, p <+: FileChunk.encode "a" 0 [1, 2] → p ≠ FileChunk.encode "a" 0 [1, 2] →
        FileChunk.decode p = .ok none) ∧
      ∀ e, e ≠ [] → FileChunk.decode (FileChunk.encode "a" 0 [1, 2] ++ e) = .ok none := by
  have hspace : ∀ c ∈ some 'a', QString.isSpace c = false := by
    rintro c ⟨⟩
    decide
  have hid : IsChunkId "a" := by
    refine ⟨by decide, by decide, ?_, by decide, hspace, hspace⟩
    exact List.forall_iff_forall_mem.mp (by decide)
  have hdata : ([1, 2] : Bytes).length < 2 ^ 31 - 24 := by decide
  exact FileChunk.codec hid 0 hdata

lemma FileChunk.decodePacket_encode {tid : String} (h : IsChunkId tid) (chunkIndex : UInt32)
    {chunkData : Bytes} (hdata : chunkData.length < 2 ^ 31 - 24) :
    FileChunk.decodePacket (FileChunk.encode tid chunkIndex chunkData) =
      some ⟨tid, chunkIndex, chunkData⟩ := by
  rw [FileChunk.decodePacket, FileChunk.decode_encode h chunkIndex hdata]

/-- An accepted packet is as long as its header and its size field say, and the
sum is an `int`. -/
lemma FileChunk.size_of_decode {raw : Bytes} {chunk : FileChunk}
    (h : FileChunk.decode raw = .ok (some chunk)) :
    FileChunk.readId (slice raw 0 16) ≠ "" ∧
      raw.length = 24 + (ofBE32 (slice raw 20 4)).toNat ∧ raw.length < 2 ^ 31 := by
  by_cases hlen : raw.length < 24
  · rw [FileChunk.decode, if_pos hlen] at h
    cases h
  by_cases hid : FileChunk.readId (slice raw 0 16) = ""
  · rw [FileChunk.decode, if_neg hlen, readSlice_ok (by omega), Checked.ok_bind, if_pos hid] at h
    cases h
  rw [FileChunk.decode_eq (by omega) hid, toInt_toInt32] at h
  obtain ⟨v, hv⟩ : ∃ v, v = (ofBE32 (slice raw 20 4)).toNat := ⟨_, rfl⟩
  have hlt : v < 2 ^ 32 := by
    rw [hv]
    exact (ofBE32 (slice raw 20 4)).toNat_lt
  rw [← hv] at h ⊢
  refine ⟨hid, ?_⟩
  by_cases hsum : -2 ^ 31 ≤ 24 + (if v < 2 ^ 31 then (v : ℤ) else (v : ℤ) - 2 ^ 32) ∧
      24 + (if v < 2 ^ 31 then (v : ℤ) else (v : ℤ) - 2 ^ 32) < 2 ^ 31
  · rw [addInt_ok hsum, Checked.ok_bind] at h
    by_cases heq : (raw.length : ℤ) = 24 + (if v < 2 ^ 31 then (v : ℤ) else (v : ℤ) - 2 ^ 32)
    · split_ifs at heq hsum <;> omega
    · rw [if_pos heq] at h
      cases h
  · rw [addInt, if_neg hsum] at h
    cases h

/-- What the decoder as its caller sees it makes of an encoding, for every id
and every length of the data. -/
lemma FileChunk.decodePacket_encode_iff (tid : String) (chunkIndex : UInt32) (chunkData : Bytes)
    (chunk : FileChunk) :
    FileChunk.decodePacket (FileChunk.encode tid chunkIndex chunkData) = some chunk ↔
      (FileChunk.readId (FileChunk.idField tid) ≠ "" ∧ chunkData.length < 2 ^ 31 - 24) ∧
        chunk = ⟨FileChunk.readId (FileChunk.idField tid), chunkIndex, chunkData⟩ := by
  have hslice : slice (FileChunk.encode tid chunkIndex chunkData) 0 16 = FileChunk.idField tid :=
    slice_eq_of_append (a := []) (FileChunk.encode_eq tid chunkIndex chunkData) rfl
      (FileChunk.length_idField tid)
  have haccepts : ∀ r, FileChunk.decodePacket (FileChunk.encode tid chunkIndex chunkData) = some r →
      FileChunk.decode (FileChunk.encode tid chunkIndex chunkData) = .ok (some r) := by
    intro r h
    rw [FileChunk.decodePacket] at h
    split at h
    · next heq => rw [heq, h]
    · cases h
  constructor
  · intro h
    obtain ⟨hid, hsize, hlt⟩ := FileChunk.size_of_decode (haccepts chunk h)
    rw [hslice] at hid
    rw [FileChunk.length_encode] at hlt
    have hdata : chunkData.length < 2 ^ 31 - 24 := by omega
    have hdecode := FileChunk.decode_encode_of_readId hid chunkIndex hdata
    rw [haccepts chunk h, Except.ok.injEq, Option.some.injEq] at hdecode
    exact ⟨⟨hid, hdata⟩, hdecode⟩
  · rintro ⟨⟨hid, hdata⟩, rfl⟩
    rw [FileChunk.decodePacket, FileChunk.decode_encode_of_readId hid chunkIndex hdata]

end MeckChat.Protocol
