import DocLedger.Proofs.Client.OneCall

/-!
# Which payloads are sent

A payload whose containers have room has a text just in case it is a document: all
its nodes are scalars, lists, tuples or mappings, and the keys of its mappings are
scalars.  A single node of another kind makes the whole payload refused, at whatever
depth it stands.  A payload without room is neither written nor refused.  A client
that gets no text calls nothing.  Integers beyond the limit on digits are left aside.
-/

namespace DocLedger.Value

/-- The values without parts that documents can hold.  A double has to be finite. -/
inductive Scalar : Value → Prop
  | null : Scalar null
  | bool (b : Bool) : Scalar (bool b)
  | int (n : Int) : Scalar (int n)
  | float {x : Float} (hfinite : Number.isFinite x = true) : Scalar (float x)
  | text (s : String) : Scalar (text s)

/-- The values all nodes of which documents can hold. -/
inductive Document : Value → Prop
  | scalar {v : Value} (hscalar : Scalar v) : Document v
  | list {items : List Value} (hitems : ∀ v ∈ items, Document v) : Document (list items)
  | tuple {items : List Value} (hitems : ∀ v ∈ items, Document v) : Document (tuple items)
  | mapping {entries : List (Value × Value)} (hkeys : ∀ e ∈ entries, Scalar e.1)
      (hvalues : ∀ e ∈ entries, Document e.2) : Document (mapping entries)

theorem overlongItems_eq_false_iff {items : List Value} :
    overlongItems items = false ↔ ∀ v ∈ items, v.overlong = false := by
  induction items with
  | nil => simp [overlongItems]
  | cons v rest ih => simp [overlongItems, ih]

theorem overlongEntries_eq_false_iff {entries : List (Value × Value)} :
    overlongEntries entries = false ↔
      ∀ e ∈ entries, e.1.overlong = false ∧ e.2.overlong = false := by
  induction entries with
  | nil => simp [overlongEntries]
  | cons e rest ih => simp [overlongEntries, ih, and_assoc]

end DocLedger.Value

namespace DocLedger.Json

open Value (Document Scalar)

/-- Styles that write documents and nothing else, in any room. -/
structure Style.Strict (style : Style) : Prop where
  finite_eq : style.finite = true
  others_eq : style.others = .refused
  room_eq : style.room = none

theorem Style.compact_strict : Style.compact.Strict := ⟨rfl, rfl, rfl⟩

variable {style : Style}

/-! ## What is written is a document -/

theorem finite_of_double_eq_ok (hstyle : style.Strict) {x : Float} {cs : List Char}
    (h : double style x = .ok cs) : Number.isFinite x = true := by
  rw [double, hstyle.finite_eq] at h
  cases hfinite : Number.isFinite x with
  | true => rfl
  | false => simp [hfinite] at h

theorem scalar_of_keyText_eq_ok (hstyle : style.Strict) {k : Value} {cs : List Char}
    (h : keyText style k = .ok cs) : Scalar k := by
  cases k with
  | null => exact .null
  | bool b => exact .bool b
  | int n => exact .int n
  | float x => exact .float (finite_of_double_eq_ok hstyle h)
  | text s => exact .text s
  | _ => cases h

mutual

theorem document_of_render_eq_ok (hstyle : style.Strict) {v : Value} {cs : List Char}
    (h : render style v = .ok cs) : Document v := by
  cases v with
  | null => exact .scalar .null
  | bool b => exact .scalar (.bool b)
  | int n => exact .scalar (.int n)
  | float x =>
      rw [render] at h
      exact .scalar (.float (finite_of_double_eq_ok hstyle h))
  | text s => exact .scalar (.text s)
  | list items =>
      rw [render, container_eq_ok_iff_of_room hstyle.room_eq] at h
      obtain ⟨texts, hitems, -⟩ := h
      exact .list (forall_document_of_renderItems_eq_ok hstyle hitems)
  | tuple items =>
      rw [render, container_eq_ok_iff_of_room hstyle.room_eq] at h
      obtain ⟨texts, hitems, -⟩ := h
      exact .tuple (forall_document_of_renderItems_eq_ok hstyle hitems)
  | mapping entries =>
      rw [render, container_eq_ok_iff_of_room hstyle.room_eq] at h
      obtain ⟨texts, hentries, -⟩ := h
      obtain ⟨hkeys, hvalues⟩ := forall_document_of_renderEntries_eq_ok hstyle hentries
      exact .mapping hkeys hvalues
  | loop => cases h
  | bytes | set | decimal | moment | record =>
      rw [render, foreignValue_of_refused hstyle.others_eq] at h
      cases h

theorem forall_document_of_renderItems_eq_ok (hstyle : style.Strict) {items : List Value}
    {texts : List (List Char)} (h : renderItems style items = .ok texts) :
    ∀ v ∈ items, Document v := by
  cases items with
  | nil => exact List.forall_mem_nil _
  | cons v rest =>
      rw [renderItems] at h
      split at h
      · cases h
      · next hitem =>
          split at h
          · cases h
          · next hrest =>
              exact List.forall_mem_cons.mpr ⟨document_of_render_eq_ok hstyle hitem,
                forall_document_of_renderItems_eq_ok hstyle hrest⟩

theorem forall_document_of_renderEntries_eq_ok (hstyle : style.Strict)
    {entries : List (Value × Value)} {texts : List (List Char)}
    (h : renderEntries style entries = .ok texts) :
    (∀ e ∈ entries, Scalar e.1) ∧ ∀ e ∈ entries, Document e.2 := by
  cases entries with
  | nil => exact ⟨List.forall_mem_nil _, List.forall_mem_nil _⟩
  | cons e rest =>
      rw [renderEntries] at h
      split at h
      · cases h
      · next hkey =>
          split at h
          · cases h
          · next hitem =>
              split at h
              · cases h
              · next hrest =>
                  obtain ⟨hkeys, hvalues⟩ := forall_document_of_renderEntries_eq_ok hstyle hrest
                  constructor
                  · exact List.forall_mem_cons.mpr ⟨scalar_of_keyText_eq_ok hstyle hkey, hkeys⟩
                  · exact List.forall_mem_cons.mpr
                      ⟨document_of_render_eq_ok hstyle hitem, hvalues⟩

end

/-! ## Documents are written -/

theorem exists_integer {n : Int} (h : Number.tooLong n = false) : ∃ cs, integer n = .ok cs :=
  ⟨Number.intDigits n, by rw [integer, h]; rfl⟩

theorem exists_double {x : Float} (h : Number.isFinite x = true) : ∃ cs, double style x = .ok cs :=
  ⟨Number.Layout.document.double x, by rw [double, h, Bool.not_true, Bool.and_false]; rfl⟩

theorem exists_keyText {k : Value} (hk : Scalar k) (hshort : k.overlong = false) :
    ∃ cs, keyText style k = .ok cs := by
  cases hk with
  | null => exact ⟨_, rfl⟩
  | bool b => exact ⟨_, rfl⟩
  | int n => exact exists_integer hshort
  | float hfinite => exact exists_double hfinite
  | text s => exact ⟨_, rfl⟩

theorem exists_render_scalar {v : Value} (hv : Scalar v) (hshort : v.overlong = false) :
    ∃ cs, render style v = .ok cs := by
  cases hv with
  | null => exact ⟨_, rfl⟩
  | bool b => exact ⟨_, rfl⟩
  | int n =>
      obtain ⟨cs, hcs⟩ := exists_integer hshort
      exact ⟨cs, by rw [render, hcs]⟩
  | float hfinite =>
      obtain ⟨cs, hcs⟩ := exists_double hfinite
      exact ⟨cs, by rw [render, hcs]⟩
  | text s => exact ⟨_, rfl⟩

theorem exists_renderItems {items : List Value} (h : ∀ v ∈ items, ∃ cs, render style v = .ok cs) :
    ∃ texts, renderItems style items = .ok texts := by
  induction items with
  | nil => exact ⟨[], rfl⟩
  | cons v rest ih =>
      obtain ⟨cs, hcs⟩ := h v List.mem_cons_self
      obtain ⟨texts, htexts⟩ := ih fun w hw => h w (List.mem_cons_of_mem _ hw)
      exact ⟨cs :: texts, by simp [renderItems, hcs, htexts]⟩

theorem exists_renderEntries {entries : List (Value × Value)}
    (hkeys : ∀ e ∈ entries, ∃ cs, keyText style e.1 = .ok cs)
    (hvalues : ∀ e ∈ entries, ∃ cs, render style e.2 = .ok cs) :
    ∃ texts, renderEntries style entries = .ok texts := by
  induction entries with
  | nil => exact ⟨[], rfl⟩
  | cons e rest ih =>
      obtain ⟨key, hkey⟩ := hkeys e List.mem_cons_self
      obtain ⟨cs, hcs⟩ := hvalues e List.mem_cons_self
      obtain ⟨texts, htexts⟩ := ih (fun w hw => hkeys w (List.mem_cons_of_mem _ hw))
        fun w hw => hvalues w (List.mem_cons_of_mem _ hw)
      exact ⟨(string style.ascii key ++ style.colon ++ cs) :: texts,
        by simp [renderEntries, hkey, hcs, htexts]⟩

/-- A document is written, unless it holds an integer beyond the limit. -/
theorem exists_render_of_document (hroom : style.room = none) {v : Value} (hv : Document v)
    (hshort : v.overlong = false) : ∃ cs, render style v = .ok cs := by
  induction hv with
  | scalar hscalar => exact exists_render_scalar hscalar hshort
  | list _ ih =>
      have hitems := Value.overlongItems_eq_false_iff.mp hshort
      obtain ⟨texts, htexts⟩ := exists_renderItems fun v hv => ih v hv (hitems v hv)
      exact ⟨_, by rw [render, (container_eq_ok_iff_of_room hroom).mpr ⟨_, htexts, rfl⟩]⟩
  | tuple _ ih =>
      have hitems := Value.overlongItems_eq_false_iff.mp hshort
      obtain ⟨texts, htexts⟩ := exists_renderItems fun v hv => ih v hv (hitems v hv)
      exact ⟨_, by rw [render, (container_eq_ok_iff_of_room hroom).mpr ⟨_, htexts, rfl⟩]⟩
  | mapping hkeys _ ih =>
      have hentries := Value.overlongEntries_eq_false_iff.mp hshort
      obtain ⟨texts, htexts⟩ := exists_renderEntries
        (fun e he => exists_keyText (hkeys e he) (hentries e he).1)
        fun e he => ih e he (hentries e he).2
      exact ⟨_, by rw [render, (container_eq_ok_iff_of_room hroom).mpr ⟨_, htexts, rfl⟩]⟩

/-- Within the limit on digits, documents are written and nothing else. -/
theorem exists_render_iff (hstyle : style.Strict) {v : Value} (hshort : v.overlong = false) :
    (∃ cs, render style v = .ok cs) ↔ Document v := by
  constructor
  · rintro ⟨cs, hcs⟩
    exact document_of_render_eq_ok hstyle hcs
  · intro hv
    exact exists_render_of_document hstyle.room_eq hv hshort

end DocLedger.Json

namespace DocLedger.Command

open Value (Document)

/-- In any room a payload has a text just in case it is a document. -/
theorem exists_payloadText_iff (field : String) {v : Value} (hshort : v.overlong = false) :
    (∃ text, payloadText field v = .ok text) ↔ Document v := by
  rcases exists_text_or v with ⟨s, rfl⟩ | hother
  · exact ⟨fun _ => .scalar (.text s), fun _ => ⟨s, rfl⟩⟩
  · rw [← Json.exists_render_iff Json.Style.compact_strict hshort]
    constructor
    · rintro ⟨text, htext⟩
      obtain ⟨cs, hcs, -⟩ := (payloadText_eq_ok_iff hother).mp htext
      exact ⟨cs, hcs⟩
    · rintro ⟨cs, hcs⟩
      exact ⟨String.ofList cs, (payloadText_eq_ok_iff hother).mpr ⟨cs, hcs, rfl⟩⟩

variable {room : Nat} {v : Value}

/-- With room a payload has a text just in case it is a document, and is refused with
an error about its field otherwise. -/
theorem payloadWithin_of_le (hshort : v.overlong = false) (hroom : v.depth ≤ room)
    (field : String) :
    ((∃ text, payloadWithin (some room) field v = .ok text) ↔ Document v) ∧
    (¬ Document v → ∃ message, payloadWithin (some room) field v =
      .error (.ledger (.configuration message (some field) v))) := by
  have hfits : Room.Fits (some room) v.depth := hroom
  have hiff : (∃ text, payloadWithin (some room) field v = .ok text) ↔ Document v := by
    rw [payloadWithin_of_fits hfits]
    exact exists_payloadText_iff field hshort
  refine ⟨hiff, ?_⟩
  intro hother
  rcases payloadWithin_cases (some room) field v with ⟨-, -, htext⟩ | ⟨-, -, herror⟩ |
    ⟨fault, hobstructs, -⟩
  · exact absurd (hiff.mp htext) hother
  · exact herror
  · exact absurd hobstructs (Value.not_obstructs_of_fits hshort hfits fault)

/-- Without room a payload ends in the fault that there is none. -/
theorem payloadWithin_of_lt (hshort : v.overlong = false) (hdeep : room < v.depth)
    (field : String) :
    ∃ doing, payloadWithin (some room) field v = .error (.fault (.tooDeep doing)) := by
  have hunfit : ¬ Room.Fits (some room) v.depth := Nat.not_le.mpr hdeep
  rcases payloadWithin_cases (some room) field v with ⟨-, hfits, -⟩ | ⟨-, hfits, -⟩ |
    ⟨fault, hobstructs, herror⟩
  · exact absurd hfits hunfit
  · exact absurd hfits hunfit
  · cases hobstructs with
    | digits hlong => exact absurd (hshort.symm.trans hlong) Bool.false_ne_true
    | depth _ doing => exact ⟨doing, herror⟩

end DocLedger.Command

namespace DocLedger.Client

open Command (payloadWithin)
open Engine (Scene)
open Value (Document Scalar)

theorem runIn_put_of_error (c : Client) {collection docId v : Value} {failure : Failure}
    (h : payloadWithin (some c.room) "payload" v = .error failure) (s : Scene) :
    (c.perform (.put collection docId v)).runIn s = (.error failure, s) :=
  runIn_perform_of_error c rfl (by rw [Operation.words, h]; rfl) s

theorem runIn_patch_of_error (c : Client) {collection docId v : Value} {failure : Failure}
    (h : payloadWithin (some c.room) "ops" v = .error failure) (s : Scene) :
    (c.perform (.patch collection docId v)).runIn s = (.error failure, s) :=
  runIn_perform_of_error c rfl (by rw [Operation.words, h]; rfl) s

/-- A payload with integers within the limit whose containers have room has a text
just in case it is a document.  Any other such payload is refused with a configuration
error about its field, and a client that is to put or patch it does so too, calls
nothing and leaves everything as it was.  A payload that has no room ends in a fault
instead, whether it is a document or not, and so does the client. -/
theorem payload_accepted_iff (room : Nat) (field : String) {v : Value}
    (hshort : v.overlong = false) :
    (v.depth ≤ room →
      ((∃ text, payloadWithin (some room) field v = .ok text) ↔ v.Document) ∧
      (¬ v.Document →
        (∃ message, payloadWithin (some room) field v =
          .error (.ledger (.configuration message (some field) v))) ∧
        ∀ (c : Client) (collection docId : Value) (s : Scene), c.room = room →
          (∃ message, (c.perform (.put collection docId v)).runIn s =
            (.error (.ledger (.configuration message (some "payload") v)), s)) ∧
          ∃ message, (c.perform (.patch collection docId v)).runIn s =
            (.error (.ledger (.configuration message (some "ops") v)), s))) ∧
    (room < v.depth →
      (∃ doing, payloadWithin (some room) field v = .error (.fault (.tooDeep doing))) ∧
      ∀ (c : Client) (collection docId : Value) (s : Scene), c.room = room →
        (∃ doing, (c.perform (.put collection docId v)).runIn s =
          (.error (.fault (.tooDeep doing)), s)) ∧
        ∃ doing, (c.perform (.patch collection docId v)).runIn s =
          (.error (.fault (.tooDeep doing)), s)) := by
  refine ⟨?_, ?_⟩
  · intro hroom
    obtain ⟨hiff, hrefused⟩ := Command.payloadWithin_of_le hshort hroom field
    refine ⟨hiff, fun hother => ⟨hrefused hother, ?_⟩⟩
    rintro c collection docId s rfl
    constructor
    · obtain ⟨message, herror⟩ := (Command.payloadWithin_of_le hshort hroom "payload").2 hother
      exact ⟨message, runIn_put_of_error c herror s⟩
    · obtain ⟨message, herror⟩ := (Command.payloadWithin_of_le hshort hroom "ops").2 hother
      exact ⟨message, runIn_patch_of_error c herror s⟩
  · intro hdeep
    refine ⟨Command.payloadWithin_of_lt hshort hdeep field, ?_⟩
    rintro c collection docId s rfl
    constructor
    · obtain ⟨doing, herror⟩ := Command.payloadWithin_of_lt hshort hdeep "payload"
      exact ⟨doing, runIn_put_of_error c herror s⟩
    · obtain ⟨doing, herror⟩ := Command.payloadWithin_of_lt hshort hdeep "ops"
      exact ⟨doing, runIn_patch_of_error c herror s⟩

/-- A set in a tuple in a mapping is one node too many, and so is a tuple as a key;
without them the payload has a text.  With room for three containers only, the payload
with the set in it is not refused. -/
theorem payload_accepted_iff_nested :
    let nested (v k : Value) : Value :=
      .list [.null, .mapping [(.bool true, .tuple [.text "a", v]), (k, .list [])]]
    let bad : Value := nested (.set [.int 1]) .null
    let badKey : Value := nested (.int 1) (.tuple [])
    (∃ text, payloadWithin (some 4) "payload" (nested (.int 1) .null) = .ok text) ∧
    (∀ v ∈ [bad, badKey], v.overlong = false ∧ v.depth ≤ 4 ∧
      ∃ message, payloadWithin (some 4) "payload" v =
        .error (.ledger (.configuration message (some "payload") v))) ∧
    3 < bad.depth ∧
    ∃ doing, payloadWithin (some 3) "payload" bad = .error (.fault (.tooDeep doing)) := by
  intro nested bad badKey
  have hone : Number.tooLong 1 = false := Number.tooLong_of_natAbs_lt (by decide)
  have hshort (v k : Value) (hv : v.overlong = false) (hk : k.overlong = false) :
      (nested v k).overlong = false := by
    simp [nested, Value.overlong, Value.overlongItems, Value.overlongEntries, hv, hk]
  have hbad : bad.overlong = false :=
    hshort _ _ (by simp [Value.overlong, Value.overlongItems, hone]) rfl
  have hbadKey : badKey.overlong = false :=
    hshort _ _ (by simp [Value.overlong, hone]) rfl
  have hparts {v k : Value} (h : (nested v k).Document) : v.Document ∧ Scalar k := by
    cases h with
    | scalar hscalar => cases hscalar
    | list hitems =>
        have hmapping := hitems _ (List.mem_cons_of_mem _ List.mem_cons_self)
        cases hmapping with
        | scalar hscalar => cases hscalar
        | mapping hkeys hvalues =>
            have htuple := hvalues _ List.mem_cons_self
            cases htuple with
            | scalar hscalar => cases hscalar
            | tuple hitems =>
                exact ⟨hitems v (List.mem_cons_of_mem _ List.mem_cons_self),
                  hkeys _ (List.mem_cons_of_mem _ List.mem_cons_self)⟩
  have hrefused {v : Value} (hv : v.overlong = false) (hroom : v.depth ≤ 4)
      (hother : ¬ v.Document) : ∃ message, payloadWithin (some 4) "payload" v =
        .error (.ledger (.configuration message (some "payload") v)) :=
    (((payload_accepted_iff 4 "payload" hv).1 hroom).2 hother).1
  refine ⟨?_, ?_, by decide, ?_⟩
  · refine (((payload_accepted_iff 4 "payload"
      (hshort _ _ (by simp [Value.overlong, hone]) rfl)).1 (by decide)).1).mpr ?_
    refine .list ?_
    simp only [List.forall_mem_cons]
    refine ⟨.scalar .null, .mapping ?_ ?_, List.forall_mem_nil _⟩
    · simp only [List.forall_mem_cons]
      exact ⟨.bool true, .null, List.forall_mem_nil _⟩
    · simp only [List.forall_mem_cons]
      refine ⟨.tuple ?_, .list (List.forall_mem_nil _), List.forall_mem_nil _⟩
      simp only [List.forall_mem_cons]
      exact ⟨.scalar (.text "a"), .scalar (.int 1), List.forall_mem_nil _⟩
  · simp only [List.forall_mem_cons]
    refine ⟨⟨hbad, by decide, hrefused hbad (by decide) ?_⟩,
      ⟨hbadKey, by decide, hrefused hbadKey (by decide) ?_⟩, List.forall_mem_nil _⟩
    · intro h
      obtain ⟨hset, -⟩ := hparts h
      cases hset with
      | scalar hscalar => cases hscalar
    · intro h
      obtain ⟨-, hkey⟩ := hparts h
      cases hkey
  · exact ((payload_accepted_iff 3 "payload" hbad).2 (by decide)).1

end DocLedger.Client
