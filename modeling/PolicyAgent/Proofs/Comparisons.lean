import PolicyAgent.Proofs.Listing
import PolicyAgent.Proofs.Time.Language

/-!
# Comparisons of dates

Readings of clocks compare with one another and instants do, but a date that has an offset does
not compare with one that has none: such a comparison fails. The agent compares dates when it
sorts a batch and when it holds a command against the token of an ingress. A creation date may
be given without an offset, and a handler may be called with such a date. No comparison fails
for that, as commands get their offset when they are decoded, tokens are not read without one,
and a handler takes the local clock to show UTC.
-/
namespace PolicyAgent

open PolicyAgent.Cluster PolicyAgent.Json PolicyAgent.Platform PolicyAgent.Time

/-- Two dates of which just one has an offset. -/
structure Time.Incomparable where
  left : Timestamp
  right : Timestamp

namespace Time.Timestamp

/-- The order of two dates by their instants, or by their local fields if they have nothing
else. -/
def order? (a b : Timestamp) : Except Incomparable Ordering :=
  match a.offset, b.offset with
  | some _, some _ => .ok (compare a.instant b.instant)
  | none, none => .ok (compare a.localMicros b.localMicros)
  | _, _ => .error ⟨a, b⟩

def isAtMost? (a b : Timestamp) : Except Incomparable Bool := (a.order? b).map Ordering.isLE

theorem order?_eq_error_iff {a b : Timestamp} :
    (∃ e, a.order? b = .error e) ↔ a.offset.isSome ≠ b.offset.isSome := by
  unfold order?
  cases a.offset <;> cases b.offset <;> simp

theorem order?_of_isSome {a b : Timestamp} (ha : a.offset.isSome = true)
    (hb : b.offset.isSome = true) : a.order? b = .ok (compare a.instant b.instant) := by
  obtain ⟨offset, hoffset⟩ := Option.isSome_iff_exists.1 ha
  obtain ⟨offset', hoffset'⟩ := Option.isSome_iff_exists.1 hb
  simp only [order?, hoffset, hoffset']

theorem isAtMost?_of_isSome {a b : Timestamp} (ha : a.offset.isSome = true)
    (hb : b.offset.isSome = true) : a.isAtMost? b = .ok (decide (a.instant ≤ b.instant)) := by
  have hle : (compare a.instant b.instant).isLE = decide (a.instant ≤ b.instant) := by
    rw [Bool.eq_iff_iff, decide_eq_true_eq, Int.isLE_compare]
  rw [isAtMost?, order?_of_isSome ha hb, Except.map, hle]

theorem isSome_offset_of_readRfc3339 {text : String} {t : Timestamp}
    (h : readRfc3339 text = .ok t) : t.offset.isSome = true := by
  obtain ⟨s, rfl⟩ := exists_spelling h
  rw [s.readRfc3339_spelling] at h
  obtain rfl := Except.ok.inj h
  rfl

end Time.Timestamp

section

variable {ε α : Type}

/-- Two sorted lists merged by a comparison that may fail. -/
def mergeChecked (le? : α → α → Except ε Bool) : List α → List α → Except ε (List α)
  | [], ys => .ok ys
  | xs, [] => .ok xs
  | x :: xs, y :: ys => do
    if ← le? x y then return x :: (← mergeChecked le? xs (y :: ys))
    else return y :: (← mergeChecked le? (x :: xs) ys)

def sortChecked (le? : α → α → Except ε Bool) : List α → Except ε (List α)
  | [] => .ok []
  | [x] => .ok [x]
  | x :: y :: xs => do
    let half := (xs.length + 3) / 2
    let early ← sortChecked le? ((x :: y :: xs).take half)
    let late ← sortChecked le? ((x :: y :: xs).drop half)
    mergeChecked le? early late
termination_by xs => xs.length
decreasing_by all_goals simp only [List.length_take, List.length_drop, List.length_cons]; omega

variable {le? : α → α → Except ε Bool} {le : α → α → Bool}

theorem mergeChecked_eq_ok {xs ys : List α} (h : ∀ x ∈ xs, ∀ y ∈ ys, le? x y = .ok (le x y)) :
    mergeChecked le? xs ys = .ok (xs.merge ys le) := by
  induction xs, ys using List.merge.induct le with
  | case1 ys => rw [mergeChecked, List.nil_merge]
  | case2 xs hxs =>
    rw [mergeChecked, List.merge_right]
    exact hxs
  | case3 x xs y ys hle ih =>
    have hrest := ih fun a ha b hb => h a (List.mem_cons_of_mem x ha) b hb
    rw [mergeChecked, h x List.mem_cons_self y List.mem_cons_self, hle, hrest,
      List.cons_merge_cons_pos _ _ _ hle]
    rfl
  | case4 x xs y ys hle ih =>
    have hrest := ih fun a ha b hb => h a ha b (List.mem_cons_of_mem y hb)
    rw [mergeChecked, h x List.mem_cons_self y List.mem_cons_self, Bool.eq_false_iff.2 hle, hrest,
      List.cons_merge_cons_neg _ _ _ hle]
    rfl

theorem sortChecked_eq_ok {xs : List α} (h : ∀ x ∈ xs, ∀ y ∈ xs, le? x y = .ok (le x y)) :
    sortChecked le? xs = .ok (xs.mergeSort le) := by
  fun_induction sortChecked le? xs with
  | case1 => rw [List.mergeSort_nil]
  | case2 x => rw [List.mergeSort_singleton]
  | case3 x y xs half ihearly ihlate =>
    have hearly := ihearly fun a ha b hb =>
      h a (List.mem_of_mem_take ha) b (List.mem_of_mem_take hb)
    have hlate := ihlate fun a ha b hb =>
      h a (List.mem_of_mem_drop ha) b (List.mem_of_mem_drop hb)
    have hmerge : ∀ a ∈ ((x :: y :: xs).take half).mergeSort le,
        ∀ b ∈ ((x :: y :: xs).drop half).mergeSort le, le? a b = .ok (le a b) := by
      intro a ha b hb
      rw [List.mem_mergeSort] at ha hb
      exact h a (List.mem_of_mem_take ha) b (List.mem_of_mem_drop hb)
    -- The library cuts a list at the same place.
    rw [hearly, hlate, List.mergeSort]
    simp only [List.MergeSort.Internal.splitInTwo_fst, List.MergeSort.Internal.splitInTwo_snd]
    exact mergeChecked_eq_ok hmerge

end

def Token.coversBy {ε : Type} (le? : Timestamp → Timestamp → Except ε Bool) (token : Token)
    (requestedAt : Timestamp) : Except ε Bool :=
  match token with
  | .readable t => le? requestedAt.withOffset t
  | _ => .ok false

theorem Token.coversBy_eq_ok {ε : Type} {le? : Timestamp → Timestamp → Except ε Bool}
    {token : Token} {requestedAt : Timestamp}
    (h : ∀ t, token.timestamp? = some t →
      le? requestedAt.withOffset t = .ok (decide (requestedAt.withOffset.instant ≤ t.instant))) :
    token.coversBy le? requestedAt = .ok (token.covers requestedAt) := by
  cases token with
  | absent => rfl
  | unreadable => rfl
  | readable t => exact h t rfl

theorem Token.isSome_offset_of_ofAnnotations {annotations : Annotations} {t : Timestamp}
    (h : (ofAnnotations annotations).timestamp? = some t) : t.offset.isSome = true := by
  unfold ofAnnotations at h
  split at h
  · cases h
  · split at h
    · cases h
    · rename_i hread
      obtain rfl := Option.some.inj h
      exact Timestamp.isSome_offset_of_readRfc3339 hread

/-- Both sides of the check have an offset, whatever the annotations and the date are. -/
theorem Token.coversBy_ofAnnotations (annotations : Annotations) (requestedAt : Timestamp) :
    (ofAnnotations annotations).coversBy Timestamp.isAtMost? requestedAt
      = .ok ((ofAnnotations annotations).covers requestedAt) :=
  coversBy_eq_ok fun _ ht => Timestamp.isAtMost?_of_isSome rfl (isSome_offset_of_ofAnnotations ht)

namespace Command

/-- The dates of some commands have offsets, so that any two of them compare and the commands
are sorted as if no comparison could fail. -/
structure DatesCompare (commands : List Command) : Prop where
  offset : ∀ c ∈ commands, c.createdAt.offset.isSome = true
  order : ∀ a ∈ commands, ∀ b ∈ commands,
    a.createdAt.order? b.createdAt = .ok (compare a.createdAt.instant b.createdAt.instant)
  sorted : sortChecked (fun a b => a.createdAt.isAtMost? b.createdAt) commands
    = .ok (inOrder commands)

theorem DatesCompare.of_offset {commands : List Command}
    (h : ∀ c ∈ commands, c.createdAt.offset.isSome = true) : DatesCompare commands where
  offset := h
  order a ha b hb := Timestamp.order?_of_isSome (h a ha) (h b hb)
  sorted := sortChecked_eq_ok fun a ha b hb => Timestamp.isAtMost?_of_isSome (h a ha) (h b hb)

theorem isSome_offset_of_decode {v : Value} {c : Command} (h : decode v = .ok c) :
    c.createdAt.offset.isSome = true := by
  obtain ⟨fields, rfl⟩ := exists_fields_of_decode h
  obtain ⟨_, t, -, -, hcreatedAt⟩ := (decode_object_eq_ok_iff.1 h).createdAt
  rw [hcreatedAt]
  rfl

theorem DatesCompare.of_decodesTo {items : List Value} {commands : List Command}
    (h : DecodesTo items commands) : DatesCompare commands := by
  apply of_offset
  intro c hc
  induction h with
  | nil => cases hc
  | cons hdecode _ ih =>
    rcases List.mem_cons.1 hc with rfl | hc
    · exact isSome_offset_of_decode hdecode
    · exact ih hc

theorem DatesCompare.of_list {client : Client} {answer : Answer} {commands : List Command}
    (h : (client.list answer).outcome = .ok commands) : DatesCompare commands := by
  obtain ⟨document, -, hlists⟩ := Client.list_eq_ok_iff.1 h
  cases hlists with
  | array hdecodes => exact of_decodesTo hdecodes
  | noFields => exact of_offset (by simp)
  | noCharacters => exact of_offset (by simp)

end Command

/-- A comparison fails if just one of two dates has an offset. None of the agent's comparisons is
of that kind: neither in the sort of a batch nor in the check for a stale command. -/
theorem comparisons_succeed :
    (∀ a b : Timestamp, (∃ e, a.order? b = .error e) ↔ a.offset.isSome ≠ b.offset.isSome) ∧
      (∀ items commands, DecodesTo items commands → Command.DatesCompare commands) ∧
      (∀ (client : Client) (answer : Answer) (commands : List Command),
        (client.list answer).outcome = .ok commands → Command.DatesCompare commands) ∧
      ∀ (annotations : Annotations) (requestedAt : Timestamp),
        (Token.ofAnnotations annotations).coversBy Timestamp.isAtMost? requestedAt
          = .ok ((Token.ofAnnotations annotations).covers requestedAt) :=
  ⟨fun _ _ => Timestamp.order?_eq_error_iff, fun _ _ h => .of_decodesTo h,
    fun _ _ _ h => .of_list h, Token.coversBy_ofAnnotations⟩

/-- A day is read without an offset, and so would not compare with other dates. -/
example : (readCreationDate (.string "2024-03-01")).toOption.map (·.offset) = some none := by
  decide +kernel

/-- The same time as a number, as a time without an offset and as one with an offset, and the day
before it. -/
def mixedDates : List Value :=
  [.integer 1709296245, .string "2024-03-01 12:30:45", .string "2024-03-01T14:30:45+02:00",
    .string "2024-02-29"].map fun date => .object [("id", .string "1"), ("createdAt", date)]

theorem comparisons_succeed_mixedDates :
    ∃ commands, DecodesTo mixedDates commands ∧ Command.DatesCompare commands := by
  have hok : ∀ item ∈ mixedDates, (Command.decode item).isOk = true := by decide +kernel
  have hdecode : ∀ item ∈ mixedDates, ∃ c, Command.decode item = .ok c :=
    fun item hitem => exists_eq_ok_of_isOk (hok item hitem)
  obtain ⟨commands, hcommands⟩ := exists_mapM_eq_ok_iff.2 hdecode
  have hdecodes : DecodesTo mixedDates commands := mapM_eq_ok_iff.1 hcommands
  exact ⟨commands, hdecodes, comparisons_succeed.2.1 _ _ hdecodes⟩

end PolicyAgent
