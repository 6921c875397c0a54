import ChartCompiler.Proofs.Document.Changes

/-!
# Marks without the selection

`Legend.plainMark` takes the rules for the selection out of a mark and of the marks nested in it.
What is left of a mark that was made to follow the selection is what is left of the mark before.
-/

namespace ChartCompiler

namespace Legend

/-- The channels in which an encoding shows the color group. -/
def boundOf (encode : Members) : List String :=
  match (encode.get? "enter").getD (.map []) with
  | .map enter => boundChannels enter
  | _ => []

/-- An update block without an opacity and without the given channels. -/
def plainUpdate (channels : List String) (update : Members) : Members :=
  update.filter fun member => member.1 ≠ "opacity" ∧ member.1 ∉ channels

/-- An encoding without rules for the selection. An update block that is empty is left out. -/
def plainEncoding (encode : Members) : Members :=
  match encode.get? "update" with
  | some (.map update) =>
      let kept := plainUpdate (boundOf encode) update
      if kept.isEmpty then encode.filter fun member => member.1 ≠ "update"
      else encode.set "update" (.map kept)
  | _ => encode

def withPlainEncoding (members : Members) : Members :=
  match members.get? "encode" with
  | some (.map encode) => members.set "encode" (.map (plainEncoding encode))
  | _ => members

mutual

/-- A mark without rules for the selection, and so the marks nested in it. -/
def plainMark : Value → Value
  | .map members => .map (withPlainEncoding (plainNested members))
  | .null => .null
  | .bool value => .bool value
  | .number value => .number value
  | .text content => .text content
  | .bytes codes => .bytes codes
  | .list items => .list items
  | .tuple items => .tuple items
  | .set items => .set items
  | .array elements extents items => .array elements extents items

def plainMarks : List Value → List Value
  | [] => []
  | mark :: rest => plainMark mark :: plainMarks rest

def plainNested : List (String × Value) → Members
  | [] => []
  | (name, item) :: rest =>
      let plain :=
        if name = "marks" then match item with
          | .list marks => .list (plainMarks marks)
          | .tuple marks => .tuple (plainMarks marks)
          | .null | .bool _ | .number _ | .text _ | .bytes _ | .set _ | .map _
          | .array _ _ _ => item
        else item
      (name, plain) :: plainNested rest

end

variable {style : Style}

/-! ## Encodings -/

theorem plainUpdate_withRules (channels : List String) (update : Members) :
    plainUpdate channels (withRules style channels update) = plainUpdate channels update := by
  have set : ∀ {name : String} (members : Members) (value : Value),
      (name = "opacity" ∨ name ∈ channels) →
      plainUpdate channels (members.set name value) = plainUpdate channels members := by
    intro name members value dropped
    apply Members.filter_set
    rintro member rfl
    simpa [imp_iff_not_or] using dropped
  have all : ∀ {names : List String} {members : Members}, names ⊆ channels →
      plainUpdate channels (names.foldl (fun result name => result.set name (channelRule style))
        members) = plainUpdate channels members := by
    intro names
    induction names with
    | nil => exact fun _ => rfl
    | cons name rest induction =>
        intro members within
        rcases List.cons_subset.mp within with ⟨first, others⟩
        rw [List.foldl_cons, induction others, set members _ (.inr first)]
  unfold withRules
  rw [all (List.Subset.refl _), set update _ (.inl rfl)]

theorem boundOf_set (encode : Members) (update : Value) :
    boundOf (encode.set "update" update) = boundOf encode := by
  unfold boundOf
  rw [Members.get?_set_of_ne _ _ (by decide)]

/-- The rules for the selection are all that an encoding is given. -/
theorem plainEncoding_of_following {encode after : Members}
    (followed : followingEncoding? style encode = .ok (some after)) :
    plainEncoding after = plainEncoding encode := by
  rcases followingEncoding?_eq_some followed with ⟨enter, update, entered, _, updated, rfl⟩
  have bound : boundOf encode = boundChannels enter := by
    unfold boundOf
    rw [entered]
  have kept := @plainUpdate_withRules style (boundChannels enter) update
  unfold plainEncoding
  rw [Members.get?_set_self, boundOf_set, bound]
  dsimp only
  rw [kept, Members.set_set, Members.filter_set _ fun member named => by simp [named]]
  cases found : encode.get? "update" with
  | some value =>
      rw [found] at updated
      rw [show value = .map update from updated]
  | none =>
      rw [found] at updated
      cases updated
      have absent := (Members.get?_eq_none_iff encode "update").mp found
      exact List.filter_eq_self.mpr fun member inside => decide_eq_true (absent member inside)

/-! ## Marks -/

/-- A member with plain marks. -/
def plainMember (name : String) (item : Value) : Value :=
  if name = "marks" then
    match item with
    | .list marks => .list (plainMarks marks)
    | .tuple marks => .tuple (plainMarks marks)
    | _ => item
  else item

theorem plainNested_cons (name : String) (item : Value) (rest : Members) :
    plainNested ((name, item) :: rest) = (name, plainMember name item) :: plainNested rest := by
  rw [plainNested.eq_def]
  unfold plainMember
  cases item <;> rfl

theorem plainMember_of_ne {name : String} (other : name ≠ "marks") (item : Value) :
    plainMember name item = item := if_neg other

theorem plainNested_get? (members : Members) {name : String} (other : name ≠ "marks") :
    (plainNested members).get? name = members.get? name := by
  induction members with
  | nil => rfl
  | cons head rest induction =>
      rw [plainNested_cons, Members.get?_cons, Members.get?_cons, induction]
      split
      · next same => rw [plainMember_of_ne (same ▸ other)]
      · rfl

theorem plainNested_set (members : Members) {name : String} (other : name ≠ "marks")
    (value : Value) : plainNested (members.set name value) = (plainNested members).set name value := by
  have plain := plainMember_of_ne other value
  induction members with
  | nil => rw [Members.set, plainNested_cons, plain]; rfl
  | cons head rest induction =>
      rw [Members.set_cons, plainNested_cons, Members.set_cons]
      split
      · next same => rw [plainNested_cons, plain]
      · rw [plainNested_cons, induction]

/-- A mark is the same without the selection, whether its encoding follows it or not. -/
theorem withPlainEncoding_of_following {members nested : Members} {encode : Option Members}
    (followed : following? style members = .ok encode)
    (same : plainNested nested = plainNested members) :
    withPlainEncoding (plainNested (withEncoding nested encode)) =
      withPlainEncoding (plainNested members) := by
  cases encode with
  | none => rw [withEncoding, same]
  | some after =>
      rcases following?_eq_some followed with ⟨before, found, followed⟩
      rw [withEncoding, plainNested_set _ (by decide), same]
      unfold withPlainEncoding
      rw [Members.get?_set_self, plainNested_get? _ (by decide), found]
      dsimp only
      rw [Members.set_set, plainEncoding_of_following followed]

theorem plainMarks_congr {marks changed : List Value}
    (changes : List.Forall₂ (fun before after => plainMark after = plainMark before) marks changed) :
    plainMarks changed = plainMarks marks := by
  induction changes with
  | nil => rfl
  | cons first _ induction =>
      unfold plainMarks
      rw [first, induction]

theorem plainNested_congr {members nested : Members}
    (changes : NestedChange (fun before after => plainMark after = plainMark before) members nested) :
    plainNested nested = plainNested members := by
  induction changes with
  | nil => rfl
  | cons first _ induction =>
      rw [plainNested_cons, plainNested_cons, induction]
      cases first with
      | kept _ => rfl
      | list each | tuple each =>
          unfold plainMember
          rw [if_pos rfl, if_pos rfl]
          dsimp only
          rw [plainMarks_congr each]

theorem plainMarks_of_selectable {marks changed : List Value} {count : Nat}
    (made : selectableMarks style marks = .ok (changed, count)) :
    plainMarks changed = plainMarks marks := by
  have step : ChangesWithNested style fun before after => plainMark after = plainMark before := by
    intro members nested encode followed changes
    unfold plainMark
    rw [withPlainEncoding_of_following followed (plainNested_congr changes)]
  exact plainMarks_congr (selectableMarks_change step made)

end Legend

end ChartCompiler
