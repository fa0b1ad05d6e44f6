import AdSearch.Proofs.Http.Laws
import AdSearch.Proofs.Number.Digits
import AdSearch.Proofs.Outcome
import AdSearch.Server.Standard
import Mathlib.Algebra.Group.Nat.Defs

/-!
# The standard framework keeps the laws

What a service relies on holds of the framework that it is run with.
-/

namespace AdSearch.Proofs.Server.Standard

open AdSearch.Http AdSearch.Log AdSearch.Server AdSearch.Proofs.Outcome
  AdSearch.Proofs.Http.Encoding AdSearch.Proofs.Http.Laws AdSearch.Proofs.Number.Digits

/-! ## Dispatch -/

theorem dispatches_standard : Dispatches standard where
  serve_eq := fun _ => rfl

/-! ## Requests -/

theorem readsRequests_standard : ReadsRequests platform where
  headers_eq := fun _ => rfl
  path?_congr := by
    intro r r' hpath hquery hhost
    change path? r = path? r'
    rw [path?, path?, address?, address?, hpath, hquery, hhost]
  takesJson_congr := by
    intro r r' htype
    change takesJson r = takesJson r'
    rw [takesJson, takesJson, htype]
  route_congr := by
    intro mount searchPath r r' hmethod hpath _ _
    change route mount searchPath r = route mount searchPath r'
    rw [route, route, hmethod, hpath]

/-! ## Bodies -/

variable {object object' : List (String × Json)} {fields : List (ModelField ArgumentType)}

theorem namedField?_names {field : ModelField ArgumentType}
    (h : ∀ name ∈ field.names, name ≠ field.shownName → Keyed.get? name object = none) :
    namedField? field.names object =
      (Keyed.get? field.shownName object).map (Prod.mk field.shownName) := by
  obtain ⟨name, alias?, type⟩ := field
  cases alias? with
  | none => simp [namedField?, ModelField.names, ModelField.shownName]
  | some shown =>
    by_cases hsame : name = shown
    · subst hsame
      cases hshown : Keyed.get? name object <;>
        simp [namedField?, ModelField.names, ModelField.shownName, hshown]
    · have hname : Keyed.get? name object = none := h name (by simp [ModelField.names]) hsame
      cases hshown : Keyed.get? shown object <;>
        simp [namedField?, ModelField.names, ModelField.shownName, hname, hshown]

theorem readField_of_givesValue {field : ModelField ArgumentType} {value : field.type.Carrier}
    (h : GivesValue field.type (Keyed.get? field.shownName object) value)
    (hothers : ∀ name ∈ field.names, name ≠ field.shownName → Keyed.get? name object = none) :
    readField object field = .ok value := by
  rw [readField, namedField?_names hothers]
  generalize Keyed.get? field.shownName object = given at h ⊢
  obtain ⟨name, alias?, type⟩ := field
  cases h with
  | @text least s hleast =>
    dsimp only [Option.map_some, readArgument]
    rw [if_neg (Nat.not_lt.mpr hleast)]
    rfl
  | optionalInteger hgives => cases hgives <;> rfl
  | optionalText hgives => cases hgives <;> rfl

theorem readFields_of_givesAll {values : Arguments fields} (h : GivesAll object fields values) :
    readFields object fields = .ok values := by
  induction fields with
  | nil => rfl
  | cons field fields ih =>
    obtain ⟨value, rest⟩ := values
    obtain ⟨hvalue, hothers, hrest⟩ := h
    rw [readFields, readField_of_givesValue hvalue hothers, ih hrest]

theorem namedField?_congr {names : List String}
    (h : ∀ name ∈ names, Keyed.get? name object = Keyed.get? name object') :
    namedField? names object = namedField? names object' := by
  unfold namedField?
  induction names with
  | nil => rfl
  | cons name names ih =>
    rw [List.forall_mem_cons] at h
    rw [List.findSome?_cons, List.findSome?_cons, h.1, ih h.2]

theorem readFields_congr (h : SameFields fields object object') :
    readFields object fields = readFields object' fields := by
  induction fields with
  | nil => rfl
  | cons field fields ih =>
    have hfield : readField object field = readField object' field := by
      rw [readField, readField, namedField?_congr (h field List.mem_cons_self)]
    have hrest := ih fun other hother => h other (List.mem_cons_of_mem field hother)
    rw [readFields, readFields, hfield, hrest]

/-! ### Contents -/

theorem isEmpty_of_decode {room : Nat} {octets : List Nat}
    (h : Json.decode room octets = .ok (.object object)) : octets.isEmpty = false := by
  cases octets with
  | nil => cases h
  | cons octet octets => rfl

theorem readContent_of_holdsObject {r : Request} (h : HoldsObject platform r object) :
    readContent bodyRoom r = .ok (.json (.object object)) := by
  have hannounced : takesJson r = true := h.announced
  have hdecoded : Json.decode bodyRoom r.body = .ok (.object object) := h.decoded
  rw [readContent, isEmpty_of_decode hdecoded, hannounced, hdecoded]
  rfl

theorem readContent_of_unannounced {r : Request} (h : takesJson r = false) (hbody : r.body ≠ []) :
    readContent bodyRoom r = .ok .other := by
  rw [readContent, if_neg (by simpa using hbody), h]
  rfl

theorem rejects_of_readContent {r : Request} {raised : Raised} {repository : Except Crash Account}
    (h : readContent bodyRoom r = .error raised) : Rejects repository raised := by
  unfold readContent at h
  split at h
  · cases h
  · split at h
    · split at h
      · cases h
      · cases h
        exact .invalid _
      · cases h
        exact .unreadable _
    · cases h

theorem rejects_of_arguments {r : Request} {raised : Raised} {repository : Except Crash Account}
    (h : arguments bodyRoom fields repository r = .error raised) : Rejects repository raised := by
  rw [arguments] at h
  cases hcontent : readContent bodyRoom r with
  | error other =>
    rw [hcontent, error_bind] at h
    cases h
    exact rejects_of_readContent hcontent
  | ok content =>
    rw [hcontent, ok_bind] at h
    cases repository with
    | error cause =>
      cases h
      exact .repository rfl
    | ok account =>
      cases hfields : content.arguments fields with
      | error faults =>
        rw [hfields] at h
        cases h
        exact .invalid faults
      | ok values =>
        rw [hfields] at h
        cases h

theorem readsBodies_standard : ReadsBodies platform where
  accepts := by
    intro fields r object values hholds hgives account
    change arguments bodyRoom fields (.ok account) r = .ok (values, account)
    have hfields : (Content.json (.object object)).arguments fields = .ok values :=
      readFields_of_givesAll hgives
    rw [arguments, readContent_of_holdsObject hholds, ok_bind, hfields]
    rfl
  ignores := by
    intro fields r r' object object' hr hr' hsame repository
    change arguments bodyRoom fields repository r = arguments bodyRoom fields repository r'
    rw [arguments, arguments, readContent_of_holdsObject hr, readContent_of_holdsObject hr',
      ok_bind, ok_bind, Content.arguments, Content.arguments, readFields_congr hsame]
  skips := by
    intro r r' hr hr' hbody hbody' fields repository
    change arguments bodyRoom fields repository r = arguments bodyRoom fields repository r'
    rw [arguments, arguments, readContent_of_unannounced hr hbody,
      readContent_of_unannounced hr' hbody']
  rejects := rejects_of_arguments

/-! ## Replies -/

mutual

theorem isSome_jsonOf? (room : Nat) (v : Value) :
    (jsonOf? room v).isSome ↔ (∀ s ∈ scalars v, CanBeSent s) ∧ depth v ≤ room := by
  cases v with
  | null => simp [jsonOf?, scalars, depth, CanBeSent]
  | bool b => simp [jsonOf?, scalars, depth, CanBeSent]
  | int i =>
    rw [jsonOf?]
    split <;> simp_all [scalars, depth, CanBeSent, isWritable_iff]
  | float x => cases x <;> simp [jsonOf?, scalars, depth, CanBeSent]
  | date d => simp [jsonOf?, scalars, depth, CanBeSent]
  | text s => simp [jsonOf?, scalars, depth, CanBeSent]
  | list items =>
    cases room with
    | zero => simp [jsonOf?, depth]
    | succ room =>
      have hitems := isSome_jsonItems? room items
      rw [RowsCanBeSent] at hitems
      simpa [jsonOf?, scalars, depth] using hitems
  | record fields =>
    cases room with
    | zero => simp [jsonOf?, depth]
    | succ room => simpa [jsonOf?, scalars, depth] using isSome_jsonFields? room fields

theorem isSome_jsonItems? (room : Nat) (items : List Value) :
    (jsonItems? room items).isSome ↔ RowsCanBeSent room items := by
  cases items with
  | nil => simp [jsonItems?, RowsCanBeSent, itemScalars, itemDepth]
  | cons item rest =>
    have hitem := isSome_jsonOf? room item
    have hrest := isSome_jsonItems? room rest
    rw [RowsCanBeSent] at hrest ⊢
    rw [itemScalars, List.forall_mem_append, itemDepth, Nat.max_le, and_and_and_comm, ← hitem,
      ← hrest, jsonItems?]
    cases jsonOf? room item <;> cases jsonItems? room rest <;> simp

theorem isSome_jsonFields? (room : Nat) (fields : List (String × Value)) :
    (jsonFields? room fields).isSome ↔
      (∀ s ∈ fieldScalars fields, CanBeSent s) ∧ fieldDepth fields ≤ room := by
  cases fields with
  | nil => simp [jsonFields?, fieldScalars, fieldDepth]
  | cons field rest =>
    obtain ⟨key, item⟩ := field
    have hitem := isSome_jsonOf? room item
    have hrest := isSome_jsonFields? room rest
    rw [fieldScalars, List.forall_mem_append, fieldDepth, Nat.max_le, and_and_and_comm, ← hitem,
      ← hrest, jsonFields?]
    cases jsonOf? room item <;> cases jsonFields? room rest <;> simp

end

mutual

theorem encodes_of_jsonOf? {room : Nat} (v : Value) {j : Json} (h : jsonOf? room v = some j) :
    Encodes v j := by
  cases v with
  | null =>
    cases h
    exact .null
  | bool b =>
    cases h
    exact .bool b
  | int i =>
    rw [jsonOf?] at h
    split at h
    · cases h
      exact .int i
    · cases h
  | float x =>
    cases x with
    | finite negative m e =>
      cases h
      exact .float _
    | infinite negative => cases h
    | nan => cases h
  | date d =>
    cases h
    exact .date d
  | text s =>
    cases h
    exact .text s
  | list items =>
    cases room with
    | zero => cases h
    | succ room =>
      obtain ⟨js, hjs, rfl⟩ := Option.map_eq_some_iff.mp h
      exact .list (encodesItems_of_jsonItems? items hjs)
  | record fields =>
    cases room with
    | zero => cases h
    | succ room =>
      obtain ⟨js, hjs, rfl⟩ := Option.map_eq_some_iff.mp h
      exact .record (encodesFields_of_jsonFields? fields hjs)

theorem encodesItems_of_jsonItems? {room : Nat} (items : List Value) {js : List Json}
    (h : jsonItems? room items = some js) : EncodesItems items js := by
  cases items with
  | nil =>
    cases h
    exact .nil
  | cons item rest =>
    obtain ⟨head, hhead, hrest⟩ := Option.bind_eq_some_iff.mp h
    obtain ⟨tail, htail, hcons⟩ := Option.bind_eq_some_iff.mp hrest
    cases hcons
    exact .cons (encodes_of_jsonOf? item hhead) (encodesItems_of_jsonItems? rest htail)

theorem encodesFields_of_jsonFields? {room : Nat} (fields : List (String × Value))
    {js : List (String × Json)} (h : jsonFields? room fields = some js) :
    EncodesFields fields js := by
  cases fields with
  | nil =>
    cases h
    exact .nil
  | cons field rest =>
    obtain ⟨key, item⟩ := field
    obtain ⟨head, hhead, hrest⟩ := Option.bind_eq_some_iff.mp h
    obtain ⟨tail, htail, hcons⟩ := Option.bind_eq_some_iff.mp hrest
    cases hcons
    exact .cons (encodes_of_jsonOf? item hhead) (encodesFields_of_jsonFields? rest htail)

end

variable {replied : List (ModelField ReplyType)} {values : Reply replied} {omitsNull : Bool}

end AdSearch.Proofs.Server.Standard
