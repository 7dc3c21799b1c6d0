import Curtain.Lib.Builtins
import Curtain.Etags

/-!
# A seat map out of arbitrary bytes

Any bytes may be stored under the key of a seat map.  A read decodes them,
parses them, takes the fields it knows from an object and converts the rows,
and each of these steps fails in its own way.  `cache_get_json` and
`_cache_read` catch some of the exceptions.
-/

namespace Curtain.SeatmapService.Decoding

open Json Builtins

/-! ## The read of the cache -/

/-- A cell as the conversions leave it; the grade is whatever the row has. -/
structure Cell where
  seatId : Int
  label : Text
  grade : Value
  price : Int
  status : Text

/-- What `get` returns; the etag is whatever the document has. -/
structure Reply where
  scheduleId : Nat
  etag : Value
  seats : List Cell
  fromCache : Bool

/-- A cell of a seat map that was built from the database. -/
def cellOf (seat : SeatCell) : Cell where
  seatId := seat.seatId
  label := text seat.label.toList
  grade := .str (text seat.grade.toList)
  price := seat.price
  status := text seat.status.toList

/-- A seat map that was built from the database. -/
def replyOf (seatmap : Seatmap) : Reply where
  scheduleId := seatmap.scheduleId
  etag := .str (text seatmap.etag.toList)
  seats := seatmap.seats.map cellOf
  fromCache := seatmap.fromCache

/-- `_label`. -/
def label (runtime : Runtime) (zone rowLabel : Value) (colNo : Int) :
    Except Exn Text := do
  let zone ← runtime.str zone
  let rowLabel ← runtime.str rowLabel
  let colNo ← runtime.strOfInt colNo
  pure
    (zone ++ text [' '] ++ rowLabel ++ text ['열', ' '] ++ colNo ++ text ['번'])

/-- One row of `_to_seats`, which is unpacked into seven names. -/
def toCell (runtime : Runtime) (row : Value) : Except Exn Cell := do
  let fields ← iterate row
  match fields with
  | [seatId, zone, rowLabel, colNo, grade, price, status] =>
      let seatId ← runtime.int seatId
      let colNo ← runtime.int colNo
      let label ← label runtime zone rowLabel colNo
      let price ← runtime.int price
      let status ← runtime.str status
      pure { seatId, label, grade, price, status }
  | _ => throw .valueError

/-- `_to_seats`. -/
def toSeats (runtime : Runtime) (rows : Value) : Except Exn (List Cell) := do
  let rows ← iterate rows
  rows.mapM (toCell runtime)

/--
`cache_get_json`, with `null` for `None`.  The client decodes the reply inside
of `get`, where only the exceptions of an unreachable store are caught.
-/
def cacheGetJson (runtime : Runtime) (stored : ByteArray) :
    Except Exn Value :=
  match String.fromUTF8? stored with
  | none => .error .unicodeDecodeError
  | some raw =>
      if raw = "" then .ok .null
      else
        match loads runtime.limits raw.toList with
        | .ok value => .ok value
        | .error .invalid => .ok .null
        | .error .tooDeep => .error .recursionError

/-- What `_cache_read` catches; a `UnicodeDecodeError` is a `ValueError`. -/
def catches : Exn → Bool
  | .keyError => true
  | .typeError => true
  | .valueError => true
  | .unicodeDecodeError => true
  | .overflowError => false
  | .recursionError => false

def etagKey : Text :=
  text "etag".toList

def rowsKey : Text :=
  text "rows".toList

/-- The map of the object that is stored. -/
def restore (runtime : Runtime) (scheduleId : Nat)
    (entries : List (Text × Value)) : Except Exn Reply := do
  let etag ← subscript entries etagKey
  let rows ← subscript entries rowsKey
  let seats ← toSeats runtime rows
  pure { scheduleId, etag, seats, fromCache := true }

/-- `_cache_read`. -/
def cacheRead (runtime : Runtime) (scheduleId : Nat) (stored : ByteArray) :
    Except Exn (Option Reply) := do
  match ← cacheGetJson runtime stored with
  | .dict entries =>
      match restore runtime scheduleId entries with
      | .ok reply => pure (some reply)
      | .error exn => if catches exn then pure none else throw exn
  | _ => pure none

/--
`get`, when both of its reads find these bytes and the database has these rows.
-/
def get (runtime : Runtime) (hexdigest : List Char → String)
    (scheduleId : Nat) (rows : List SeatmapRow) (stored : ByteArray) :
    Except Exn Reply := do
  match ← cacheRead runtime scheduleId stored with
  | some cached => pure cached
  | none =>
      match ← cacheRead runtime scheduleId stored with
      | some cached => pure cached
      | none =>
          let etag := etag hexdigest scheduleId rows
          pure (replyOf (built scheduleId etag rows false))

/-! ## What `_cache_write` writes -/

/-- The document of `_cache_write`. -/
def document (etag : String) (rows : List SeatmapRow) : Plain :=
  .dict
    [("etag".toList, .str etag.toList),
     ("rows".toList, .list (rows.map SeatmapRow.document))]

/-- The bytes that `cache_set_json` stores. -/
def payload (etag : String) (rows : List SeatmapRow) : ByteArray :=
  (String.ofList (document etag rows).dumps).toByteArray

/-- A row of integers and strings. -/
def isRow : Value → Bool
  | .list [.int _, .str _, .str _, .int _, .str _, .int _, .str _] => true
  | _ => false

/-- An object of a string etag and a list of such rows. -/
def isDocument : Value → Bool
  | .dict [(first, .str _), (second, .list rows)] =>
      first == etagKey && second == rowsKey && rows.all isRow
  | .dict [(first, .list rows), (second, .str _)] =>
      first == rowsKey && second == etagKey && rows.all isRow
  | _ => false

/-- The bytes are a document of the shape that `_cache_write` produces. -/
def isWritten (runtime : Runtime) (stored : ByteArray) : Bool :=
  match String.fromUTF8? stored with
  | none => false
  | some raw =>
      match loads runtime.limits raw.toList with
      | .ok value => isDocument value
      | .error _ => false

/-! ## What breaks a read -/

/-- The first conversion of a row that fails, in the order of `_to_seats`. -/
def rowVerdict (runtime : Runtime) (row : Value) : Verdict :=
  match parts row with
  | some [seatId, zone, rowLabel, colNo, _, price, status] =>
      Verdict.each
        [.of catches (runtime.int seatId),
         .of catches (runtime.int colNo),
         .of catches (runtime.str zone),
         .of catches (runtime.str rowLabel),
         .of catches (runtime.int colNo >>= runtime.strOfInt),
         .of catches (runtime.int price),
         .of catches (runtime.str status)]
  | _ => .caught

/-- The first row that does not convert. -/
def rowsVerdict (runtime : Runtime) (rows : Value) : Verdict :=
  match parts rows with
  | some rows => Verdict.each (rows.map (rowVerdict runtime))
  | none => .caught

/--
The bytes are text, they do not nest too deep, and if they are an object with
an etag and rows, it is of the shape that is written or the first conversion
that fails raises what is caught.
-/
def isHarmless (runtime : Runtime) (stored : ByteArray) : Bool :=
  match String.fromUTF8? stored with
  | none => false
  | some raw =>
      raw == "" ||
        match loads runtime.limits raw.toList with
        | .error fault => fault == .invalid
        | .ok (.dict entries) =>
            isDocument (.dict entries) ||
              match entries.lookup etagKey, entries.lookup rowsKey with
              | some _, some rows => rowsVerdict runtime rows == .caught
              | _, _ => true
        | .ok _ => true

/-! ## Verdicts on conversions -/

section Verdicts

variable {runtime : Runtime}

/-- The label converts both texts and then the number. -/
theorem of_label (zone rowLabel : Value) (colNo : Int) :
    Verdict.of catches (label runtime zone rowLabel colNo) =
      Verdict.each
        [.of catches (runtime.str zone),
         .of catches (runtime.str rowLabel),
         .of catches (runtime.strOfInt colNo)] := by
  apply Verdict.of_bind
  intro zone _
  apply Verdict.of_bind
  intro rowLabel _
  apply Verdict.of_bind
  intro colNo _
  rfl

theorem of_toCell (row : Value) :
    Verdict.of catches (toCell runtime row) = rowVerdict runtime row := by
  unfold toCell rowVerdict
  cases found : parts row with
  | none =>
      rw [iterate_of_whole found]
      rfl
  | some fields =>
      rw [iterate_of_parts found, ok_bind]
      split
      · rename_i seatId zone rowLabel colNo grade price status
        apply Verdict.of_bind
        intro _ _
        apply Verdict.of_bind
        intro column read
        have texts :
            [Verdict.of catches (runtime.str zone),
             .of catches (runtime.str rowLabel),
             .of catches (runtime.int colNo >>= runtime.strOfInt),
             .of catches (runtime.int price),
             .of catches (runtime.str status)] =
            [.of catches (runtime.str zone),
             .of catches (runtime.str rowLabel),
             .of catches (runtime.strOfInt column)] ++
            [.of catches (runtime.int price),
             .of catches (runtime.str status)] := by
          rw [read]
          rfl
        show _ = Verdict.each _
        rw [texts, Verdict.each_append, ← of_label]
        apply Verdict.of_bind
        intro _ _
        apply Verdict.of_bind
        intro _ _
        apply Verdict.of_bind
        intro _ _
        rfl
      · rename_i other
        split
        · rename_i seven
          cases seven
          exact absurd rfl (other _ _ _ _ _ _ _)
        · rfl

theorem of_toSeats (rows : Value) :
    Verdict.of catches (toSeats runtime rows) = rowsVerdict runtime rows := by
  unfold toSeats rowsVerdict
  cases found : parts rows with
  | none =>
      rw [iterate_of_whole found]
      rfl
  | some items =>
      rw [iterate_of_parts found, ok_bind, Verdict.of_mapM]
      simp only [of_toCell]

theorem of_strOfInt_ne_escapes (number : Int) :
    Verdict.of catches (runtime.strOfInt number) ≠ .escapes := by
  unfold Runtime.strOfInt
  split_ifs <;> simp [Verdict.of, catches]

/-- What is written converts, or its number is too long to be shown. -/
theorem rowVerdict_of_isRow {row : Value} (shaped : isRow row = true) :
    rowVerdict runtime row ≠ .escapes := by
  unfold isRow at shaped
  split at shaped
  · rename_i seatId zone rowLabel colNo grade price status
    show (Verdict.of catches (runtime.strOfInt colNo)).andThen .passes ≠ _
    rw [Verdict.andThen_passes]
    exact of_strOfInt_ne_escapes colNo
  · cases shaped

theorem rowsVerdict_of_all {rows : List Value}
    (shaped : rows.all isRow = true) :
    rowsVerdict runtime (.list rows) ≠ .escapes := by
  apply Verdict.each_ne_escapes
  intro verdict member
  obtain ⟨row, inside, rfl⟩ := List.mem_map.mp member
  exact rowVerdict_of_isRow (List.all_eq_true.mp shaped row inside)

/-- A document that is written has an etag, and nothing escapes from its rows. -/
theorem entries_of_isDocument {entries : List (Text × Value)}
    (shaped : isDocument (.dict entries) = true) :
    ∃ etag rows, entries.lookup etagKey = some etag ∧
      entries.lookup rowsKey = some rows ∧
        rowsVerdict runtime rows ≠ .escapes := by
  unfold isDocument at shaped
  split at shaped
  · rename_i first etag second rows equal
    cases equal
    simp only [Bool.and_eq_true, beq_iff_eq] at shaped
    obtain ⟨⟨rfl, rfl⟩, rowed⟩ := shaped
    exact ⟨_, _, rfl, rfl, rowsVerdict_of_all rowed⟩
  · rename_i first rows second etag equal
    cases equal
    simp only [Bool.and_eq_true, beq_iff_eq] at shaped
    obtain ⟨⟨rfl, rfl⟩, rowed⟩ := shaped
    exact ⟨_, _, rfl, rfl, rowsVerdict_of_all rowed⟩
  · cases shaped

end Verdicts

/-! ## Reads of arbitrary bytes -/

section Reads

variable {runtime : Runtime} {hexdigest : List Char → String}
variable {scheduleId : Nat} {rows : List SeatmapRow} {stored : ByteArray}

/-- The map that a call builds from the database. -/
def freshReply (hexdigest : List Char → String) (scheduleId : Nat)
    (rows : List SeatmapRow) : Reply :=
  replyOf (built scheduleId (etag hexdigest scheduleId rows) rows false)

/--
`get` does not raise, and unless the bytes are of the shape that is written,
it returns the map of the database.
-/
def Withstands (runtime : Runtime) (hexdigest : List Char → String)
    (scheduleId : Nat) (rows : List SeatmapRow) (stored : ByteArray) : Prop :=
  ∃ reply, get runtime hexdigest scheduleId rows stored = .ok reply ∧
    (isWritten runtime stored = false →
      reply = freshReply hexdigest scheduleId rows)

theorem withstands_of_miss
    (missed : cacheRead runtime scheduleId stored = .ok none) :
    Withstands runtime hexdigest scheduleId rows stored := by
  refine ⟨freshReply hexdigest scheduleId rows, ?_, fun _ => rfl⟩
  rw [get, missed]
  rfl

theorem withstands_of_hit {cached : Reply}
    (hit : cacheRead runtime scheduleId stored = .ok (some cached))
    (flagged : cached.fromCache = true) :
    Withstands runtime hexdigest scheduleId rows stored ↔
      isWritten runtime stored = true := by
  have returned :
      get runtime hexdigest scheduleId rows stored = .ok cached := by
    rw [get, hit]
    rfl
  constructor
  · rintro ⟨reply, same, fresh⟩
    rw [returned] at same
    cases same
    by_contra other
    have equal := fresh (Bool.eq_false_of_not_eq_true other)
    rw [equal] at flagged
    cases flagged
  · intro shaped
    exact ⟨cached, returned, fun other => by rw [shaped] at other; cases other⟩

theorem not_withstands_of_error {exn : Exn}
    (raised : cacheRead runtime scheduleId stored = .error exn) :
    ¬ Withstands runtime hexdigest scheduleId rows stored := by
  rintro ⟨reply, same, -⟩
  rw [get, raised] at same
  cases same

/-- The verdict on the map of an object is that on its rows, if it has any. -/
theorem of_restore (entries : List (Text × Value)) :
    Verdict.of catches (restore runtime scheduleId entries) =
      match entries.lookup etagKey, entries.lookup rowsKey with
      | some _, some rows => rowsVerdict runtime rows
      | _, _ => .caught := by
  unfold restore subscript
  cases entries.lookup etagKey with
  | none => rfl
  | some etag =>
      cases entries.lookup rowsKey with
      | none => rfl
      | some rows =>
          have read :
              Verdict.of catches
                  (toSeats runtime rows >>= fun seats =>
                    pure
                      ({ scheduleId, etag, seats, fromCache := true } :
                        Reply)) =
                (Verdict.of catches (toSeats runtime rows)).andThen .passes :=
            Verdict.of_bind _ _ fun _ _ => rfl
          rw [Verdict.andThen_passes, of_toSeats] at read
          exact read

theorem restore_fromCache {entries : List (Text × Value)} {reply : Reply}
    (restored : restore runtime scheduleId entries = .ok reply) :
    reply.fromCache = true := by
  unfold restore at restored
  cases etagRead : subscript entries etagKey with
  | error exn =>
      rw [etagRead] at restored
      cases restored
  | ok etag =>
      rw [etagRead, ok_bind] at restored
      cases rowsRead : subscript entries rowsKey with
      | error exn =>
          rw [rowsRead] at restored
          cases restored
      | ok rows =>
          rw [rowsRead, ok_bind] at restored
          cases seatsRead : toSeats runtime rows with
          | error exn =>
              rw [seatsRead] at restored
              cases restored
          | ok seats =>
              rw [seatsRead, ok_bind] at restored
              cases restored
              rfl

theorem cacheGetJson_of_text {raw : String}
    (decoded : String.fromUTF8? stored = some raw) (any : raw ≠ "") :
    cacheGetJson runtime stored =
      match loads runtime.limits raw.toList with
      | .ok value => .ok value
      | .error .invalid => .ok .null
      | .error .tooDeep => .error .recursionError := by
  rw [cacheGetJson, decoded]
  dsimp only
  rw [if_neg any]

/-- What is not an object is not there. -/
theorem cacheRead_of_other (scheduleId : Nat) {value : Value}
    (payload : cacheGetJson runtime stored = .ok value)
    (other : ∀ entries, value ≠ .dict entries) :
    cacheRead runtime scheduleId stored = .ok none := by
  rw [cacheRead, payload, ok_bind]
  cases value with
  | dict entries => exact absurd rfl (other entries)
  | null | bool | int | float | str | list => rfl

theorem cacheRead_of_dict (scheduleId : Nat) {entries : List (Text × Value)}
    (payload : cacheGetJson runtime stored = .ok (.dict entries)) :
    cacheRead runtime scheduleId stored =
      match restore runtime scheduleId entries with
      | .ok reply => .ok (some reply)
      | .error exn => if catches exn then .ok none else .error exn := by
  rw [cacheRead, payload]
  rfl

/-- An object is read as the verdict on its map says. -/
theorem withstands_of_dict {entries : List (Text × Value)}
    (shape : isWritten runtime stored = isDocument (.dict entries))
    (payload : cacheGetJson runtime stored = .ok (.dict entries)) :
    Withstands runtime hexdigest scheduleId rows stored ↔
      isDocument (.dict entries) = true ∨
        Verdict.of catches (restore runtime scheduleId entries) = .caught := by
  have read := cacheRead_of_dict scheduleId payload
  cases restored : restore runtime scheduleId entries with
  | ok reply =>
      rw [restored] at read
      rw [withstands_of_hit read (restore_fromCache restored), shape]
      simp
  | error exn =>
      rw [restored] at read
      dsimp only at read
      cases handled : catches exn with
      | true =>
          rw [if_pos handled] at read
          simp [withstands_of_miss read, Verdict.of, handled]
      | false =>
          rw [handled, if_neg Bool.false_ne_true] at read
          have escapes :
              Verdict.of catches (restore runtime scheduleId entries) =
                .escapes :=
            Verdict.of_eq_escapes.mpr ⟨exn, restored, handled⟩
          constructor
          · exact fun withstands =>
              absurd withstands (not_withstands_of_error read)
          · rintro (shaped | caught)
            · obtain ⟨etag, found, etagFound, rowsFound, tame⟩ :=
                entries_of_isDocument shaped
              rw [of_restore, etagFound, rowsFound] at escapes
              exact absurd escapes tame
            · rw [restored] at escapes
              rw [escapes] at caught
              cases caught

/--
For all bytes under the key, a call neither raises nor takes an odd document
for a seat map exactly when the bytes are harmless.
-/
theorem get_withstands (runtime : Runtime) (hexdigest : List Char → String)
    (scheduleId : Nat) (rows : List SeatmapRow) (stored : ByteArray) :
    Withstands runtime hexdigest scheduleId rows stored ↔
      isHarmless runtime stored = true := by
  unfold isHarmless
  cases decoded : String.fromUTF8? stored with
  | none =>
      have raised :
          cacheRead runtime scheduleId stored =
            .error .unicodeDecodeError := by
        rw [cacheRead, cacheGetJson, decoded]
        rfl
      simp [not_withstands_of_error raised]
  | some raw =>
      dsimp only
      by_cases empty : raw = ""
      · have payload : cacheGetJson runtime stored = .ok .null := by
          rw [cacheGetJson, decoded]
          exact if_pos empty
        have missed := cacheRead_of_other scheduleId payload (by simp)
        simp [withstands_of_miss missed, empty]
      · have payload := @cacheGetJson_of_text runtime _ _ decoded empty
        have shape :
            isWritten runtime stored =
              match loads runtime.limits raw.toList with
              | .ok value => isDocument value
              | .error _ => false := by
          rw [isWritten, decoded]
        cases parsed : loads runtime.limits raw.toList with
        | error fault =>
            rw [parsed] at payload
            cases fault with
            | invalid =>
                have missed := cacheRead_of_other scheduleId payload (by simp)
                simp [withstands_of_miss missed]
            | tooDeep =>
                have raised :
                    cacheRead runtime scheduleId stored =
                      .error .recursionError := by
                  rw [cacheRead, payload]
                  rfl
                simp [not_withstands_of_error raised, empty]
        | ok value =>
            rw [parsed] at payload shape
            cases value with
            | dict entries =>
                rw [withstands_of_dict shape payload, of_restore]
                cases etagFound : entries.lookup etagKey <;>
                  cases rowsFound : entries.lookup rowsKey <;>
                    simp [empty, etagFound, rowsFound]
            | null | bool | int | float | str | list =>
                have missed := cacheRead_of_other scheduleId payload (by simp)
                simp [withstands_of_miss missed]

/-! ### What is written is read back -/

theorem fromUTF8?_toByteArray (raw : String) :
    String.fromUTF8? raw.toByteArray = some raw := by
  unfold String.fromUTF8?
  rw [dif_pos raw.isValidUTF8]
  rfl

theorem digits_le_digitsItems {document : Plain} {items : List Plain}
    (member : document ∈ items) :
    document.digits ≤ Plain.digitsItems items := by
  induction items with
  | nil => cases member
  | cons first rest induction =>
      rw [Plain.digitsItems]
      rcases List.mem_cons.mp member with own | other
      · rw [own]
        exact le_max_left _ _
      · exact (induction other).trans (le_max_right _ _)

/-- The label of a row is that of its cell. -/
theorem label_document {zone rowLabel : String} {colNo : Int}
    (digits :
      (Nat.toDigits 10 colNo.natAbs).length ≤ runtime.limits.digits) :
    label runtime (.str (text zone.toList)) (.str (text rowLabel.toList))
        colNo =
      .ok (text (SeatmapService.label zone rowLabel colNo).toList) := by
  have shown : runtime.strOfInt colNo = .ok (text (toString colNo).toList) := by
    rw [Json.toList_toString]
    exact if_neg (Nat.not_lt.mpr digits)
  have plain : ∀ part : String, toString part = part := fun _ => rfl
  rw [label, shown]
  simp [SeatmapService.label, plain, text, Runtime.str, Bind.bind, Except.bind,
    pure, Except.pure]

/-- A row that is written converts to the cell that is built from it. -/
theorem toCell_document {row : SeatmapRow}
    (digits : row.document.digits ≤ runtime.limits.digits) :
    toCell runtime row.document.value =
      .ok
        (cellOf
          { seatId := row.seatId
            label := SeatmapService.label row.zone row.rowLabel row.colNo
            grade := row.grade
            price := row.price
            status := row.status }) := by
  have column :
      (Nat.toDigits 10 row.colNo.natAbs).length ≤ runtime.limits.digits := by
    refine le_trans ?_ digits
    exact @digits_le_digitsItems (.int row.colNo) _ (by simp)
  have labelled := @label_document runtime row.zone row.rowLabel _ column
  rw [toCell, iterate_of_parts rfl, ok_bind]
  simp only [Plain.values, Plain.value, Runtime.int, ok_bind, labelled,
    Runtime.str]
  rfl

theorem toSeats_document {rows : List SeatmapRow}
    (digits : ∀ row ∈ rows, row.document.digits ≤ runtime.limits.digits) :
    toSeats runtime (.list (rows.map fun row => row.document.value)) =
      .ok ((SeatmapService.toSeats rows).map cellOf) := by
  rw [toSeats, iterate_of_parts rfl, ok_bind]
  induction rows with
  | nil => rfl
  | cons row rows induction =>
      have own := toCell_document (digits row (by simp))
      have others :=
        induction fun other member => digits other (by simp [member])
      rw [List.map_cons, List.mapM_cons, own, ok_bind, others]
      rfl

theorem document_depth (etag : String) (rows : List SeatmapRow) :
    (document etag rows).depth ≤ 3 := by
  have rowsDepth : Plain.depthItems (rows.map SeatmapRow.document) ≤ 1 := by
    induction rows with
    | nil => simp [Plain.depthItems]
    | cons row rows induction =>
        simpa [Plain.depthItems, SeatmapRow.document, Plain.depth]
          using induction
  simp only [document, Plain.depth, Plain.depthEntries]
  omega

/-- The entries of the document. -/
def fields (etag : String) (rows : List SeatmapRow) : List (Text × Value) :=
  [(etagKey, .str (text etag.toList)),
   (rowsKey, .list (rows.map fun row => row.document.value))]

theorem document_value (etag : String) (rows : List SeatmapRow) :
    (document etag rows).value = .dict (fields etag rows) := by
  rw [fields, ← values_map_document]
  rfl

/-- What is written is of the shape that is written. -/
theorem isDocument_fields (etag : String) (rows : List SeatmapRow) :
    isDocument (.dict (fields etag rows)) = true := by
  have rowed :
      (rows.map fun row => row.document.value).all isRow = true := by
    rw [List.all_map, List.all_eq_true]
    exact fun row _ => rfl
  simp only [isDocument, fields, rowed, beq_self_eq_true, Bool.and_true]

theorem restore_fields (scheduleId : Nat) {etag : String}
    {rows : List SeatmapRow}
    (digits : ∀ row ∈ rows, row.document.digits ≤ runtime.limits.digits) :
    restore runtime scheduleId (fields etag rows) =
      .ok (replyOf (built scheduleId etag rows true)) := by
  have etagRead :
      subscript (fields etag rows) etagKey = .ok (.str (text etag.toList)) :=
    rfl
  have rowsRead :
      subscript (fields etag rows) rowsKey =
        .ok (.list (rows.map fun row => row.document.value)) :=
    rfl
  rw [restore, etagRead, ok_bind, rowsRead, ok_bind, toSeats_document digits]
  rfl

/-- What `_cache_write` wrote is read back as the map of its rows. -/
theorem cacheRead_payload (scheduleId : Nat) {etag : String}
    {rows : List SeatmapRow} (depth : 3 ≤ runtime.limits.depth)
    (digits : (document etag rows).digits ≤ runtime.limits.digits) :
    isWritten runtime (payload etag rows) = true ∧
      cacheRead runtime scheduleId (payload etag rows) =
        .ok (some (replyOf (built scheduleId etag rows true))) := by
  have parsed :
      loads runtime.limits (String.ofList (document etag rows).dumps).toList =
        .ok (.dict (fields etag rows)) := by
    rw [String.toList_ofList, ← document_value]
    exact Plain.loads_dumps _ ((document_depth etag rows).trans depth) digits
  have each : ∀ row ∈ rows, row.document.digits ≤ runtime.limits.digits := by
    intro row member
    have inside :
        Plain.digitsItems (rows.map SeatmapRow.document) ≤
          runtime.limits.digits := by
      simp only [document, Plain.digits, Plain.digitsEntries] at digits
      omega
    exact (digits_le_digitsItems (List.mem_map_of_mem member)).trans inside
  have any : String.ofList (document etag rows).dumps ≠ "" := by
    intro empty
    have characters := congrArg String.toList empty
    rw [String.toList_ofList] at characters
    cases characters
  have decoded := fromUTF8?_toByteArray (.ofList (document etag rows).dumps)
  have stored :
      cacheGetJson runtime (payload etag rows) =
        .ok (.dict (fields etag rows)) := by
    rw [payload, @cacheGetJson_of_text runtime _ _ decoded any, parsed]
  constructor
  · rw [isWritten, payload, decoded]
    dsimp only
    rw [parsed]
    exact isDocument_fields etag rows
  · rw [cacheRead_of_dict scheduleId stored, restore_fields scheduleId each]

end Reads

/-! ### Three bad values -/

/-- An interpreter that knows no digits and spaces beyond ASCII. -/
def ascii : Runtime where
  limits := { depth := 1000, digits := 4300 }
  isSpace := fun _ => false
  decimal := fun _ => none
  repr := fun _ => .ok []

/-- The map of the one seat is read back with the label of its seat. -/
theorem cacheRead_payload_seat :
    let rows := Fleet.oneSeat.rows 1
    let etag := "fd54335170670134fec822de"
    cacheRead ascii 1 (payload etag rows) =
      .ok (some (replyOf (built 1 etag rows true))) :=
  (cacheRead_payload 1 (by decide) (by decide)).2

/-- A byte that no text has. -/
def notText : ByteArray :=
  ⟨#[0xFF]⟩

/-- The seat of a row is the literal for infinity. -/
def infiniteSeat : ByteArray :=
  String.toByteArray
    "\x7b\"etag\":\"\",\"rows\":[[Infinity,\"\",\"\",1,\"\",1,\"\"]]\x7d"

/-- The etag is a number, and nothing is wrong with the rows. -/
def numericEtag : ByteArray :=
  "\x7b\"etag\":5,\"rows\":[]\x7d".toByteArray

/-- The first two values raise, and the last one is taken for a seat map. -/
theorem get_withstands_fails :
    ¬ Withstands ascii oneSeatDigest 1 (Fleet.oneSeat.rows 1) notText ∧
      ¬ Withstands ascii oneSeatDigest 1 (Fleet.oneSeat.rows 1)
          infiniteSeat ∧
        ¬ Withstands ascii oneSeatDigest 1 (Fleet.oneSeat.rows 1)
            numericEtag := by
  have text : cacheRead ascii 1 notText = .error .unicodeDecodeError := rfl
  have overflow : cacheRead ascii 1 infiniteSeat = .error .overflowError := rfl
  have taken :
      cacheRead ascii 1 numericEtag =
        .ok
          (some
            { scheduleId := 1
              etag := .int 5
              seats := []
              fromCache := true }) :=
    rfl
  have odd : isWritten ascii numericEtag ≠ true := by decide
  refine ⟨not_withstands_of_error text, not_withstands_of_error overflow, ?_⟩
  rw [withstands_of_hit taken rfl]
  exact odd

end Curtain.SeatmapService.Decoding
