import ChartCompiler.Proofs.Document.Drawings
import ChartCompiler.Proofs.Document.Plain
import ChartCompiler.Proofs.Layer.Drawn
import ChartCompiler.Proofs.Layer.Scales

/-!
# Drawings know of no selection

What a layer draws sets its colors once and for all, and it asks for the color scale only for a
table with color groups.
-/

namespace ChartCompiler

open Layer Legend

/-! ## Rendered marks -/

/-- Whether none of some channels is a color. -/
def Channels.keepColors (channels : Channels) : Bool :=
  channels.all fun entry => entry.1 ≠ .fill ∧ entry.1 ≠ .stroke

/-- Whether a graphic sets no colors when it is updated. -/
def Graphic.keepsColors : Graphic → Bool
  | .mark content => Channels.keepColors content.update
  | .group content =>
      Channels.keepColors content.update
        && content.marks.all fun inner => Channels.keepColors inner.update

theorem Channel.name_plain {channel : Channel} (colorless : channel ≠ .fill ∧ channel ≠ .stroke) :
    channel.name ≠ "opacity" ∧ channel.name ≠ "fill" ∧ channel.name ≠ "stroke" := by
  cases channel <;> simp_all [Channel.name]

theorem boundOf_subset (encode : Members) : boundOf encode ⊆ ["fill", "stroke"] := by
  unfold boundOf
  split
  · exact List.filter_subset_self _
  · exact List.nil_subset _

theorem plainUpdate_channels {channels : Channels} (keeps : channels.keepColors = true)
    (encode : Members) {update : Members} (written : channels.toValue = .map update) :
    plainUpdate (boundOf encode) update = update := by
  cases written
  apply List.filter_eq_self.mpr
  intro member inside
  rcases List.mem_map.mp inside with ⟨entry, listed, rfl⟩
  have colorless := of_decide_eq_true (List.all_eq_true.mp keeps entry listed)
  rcases Channel.name_plain colorless with ⟨opaque_, fill, stroke⟩
  have unbound : entry.1.name ∉ boundOf encode := by
    intro bound
    simpa [fill, stroke] using boundOf_subset encode bound
  simp [opaque_, unbound]

/-- An encoding is plain if its update block is left out without channels and sets no colors. -/
theorem plainEncoding_of_update {encode : Members} {channels : Channels}
    (keeps : channels.keepColors = true)
    (updated : encode.get? "update" = if channels = [] then none else some channels.toValue) :
    plainEncoding encode = encode := by
  unfold plainEncoding
  rw [updated]
  split
  · next update found =>
      split at found
      · cases found
      · next some_ =>
          have written := Option.some.inj found
          have filled : update ≠ [] := by
            cases written
            simpa using some_
          rw [plainUpdate_channels keeps encode written]
          dsimp only
          rw [if_neg (by simpa using filled)]
          apply Members.set_of_get?
          rw [updated, if_neg some_, written]
  · rfl

theorem plainNested_of_absent {members : Members} (absent : members.get? "marks" = none) :
    plainNested members = members := by
  have others := (Members.get?_eq_none_iff members "marks").mp absent
  clear absent
  induction members with
  | nil => rfl
  | cons head rest induction =>
      rcases List.forall_mem_cons.mp others with ⟨first, following⟩
      rw [plainNested_cons, induction following, plainMember_of_ne first]

theorem withPlainEncoding_eq {members encode : Members}
    (found : members.get? "encode" = some (.map encode)) (plain : plainEncoding encode = encode) :
    withPlainEncoding members = members := by
  unfold withPlainEncoding
  rw [found]
  dsimp only
  rw [plain, Members.set_of_get? found]

theorem Mark.plainMark_toMembers {mark : Mark} (keeps : mark.update.keepColors = true) :
    plainMark (.map mark.toMembers) = .map mark.toMembers := by
  have updated : mark.blocks.get? "update" =
      if mark.update = [] then none else some mark.update.toValue := by
    rw [Mark.get?_blocks]
    simp
  unfold plainMark
  rw [plainNested_of_absent (mark.get?_absent (by decide)),
    withPlainEncoding_eq mark.get?_encode (plainEncoding_of_update keeps updated)]

theorem plainMarks_eq {marks : List Value} (plain : ∀ mark ∈ marks, plainMark mark = mark) :
    plainMarks marks = marks := by
  induction marks with
  | nil => rfl
  | cons mark rest induction =>
      rcases List.forall_mem_cons.mp plain with ⟨first, others⟩
      rw [plainMarks, first, induction others]

theorem plainNested_append (left right : Members) :
    plainNested (left ++ right) = plainNested left ++ plainNested right := by
  induction left with
  | nil => rfl
  | cons head rest induction =>
      rw [List.cons_append, plainNested_cons, plainNested_cons, induction, List.cons_append]

theorem Group.plainMark_toMembers {group : Group} (keeps : (Graphic.group group).keepsColors = true) :
    plainMark (.map group.toMembers) = .map group.toMembers := by
  rcases Bool.and_eq_true_iff.mp keeps with ⟨own, inner⟩
  have marks : plainMarks (group.marks.map fun mark => .map mark.toMembers) =
      group.marks.map fun mark => .map mark.toMembers := by
    apply plainMarks_eq
    intro value inside
    rcases List.mem_map.mp inside with ⟨mark, listed, rfl⟩
    exact Mark.plainMark_toMembers (List.all_eq_true.mp inner mark listed)
  have nested : plainNested group.toMembers = group.toMembers := by
    have parts : group.toMembers = group.frame
        ++ [("marks", .list (group.marks.map fun mark => .map mark.toMembers))] := rfl
    rw [parts, plainNested_append, plainNested_of_absent group.get?_frame, plainNested_cons]
    unfold plainMember
    rw [if_pos rfl]
    dsimp only
    rw [marks]
    rfl
  unfold plainMark
  rw [nested]
  by_cases unset : group.blocks = []
  · unfold withPlainEncoding
    rw [group.get?_encode, if_pos unset]
  · have found : group.toMembers.get? "encode" = some (.map group.blocks) := by
      rw [group.get?_encode, if_neg unset]
    rw [withPlainEncoding_eq found]
    apply plainEncoding_of_update own
    unfold Group.blocks
    rw [Members.get?_append, Members.get?_channels, Members.get?_channels]
    simp

theorem Graphic.plainMark_toMembers {graphic : Graphic} (keeps : graphic.keepsColors = true) :
    plainMark (.map graphic.toMembers) = .map graphic.toMembers := by
  cases graphic with
  | mark content => exact Mark.plainMark_toMembers keeps
  | group content => exact Group.plainMark_toMembers keeps

/-! ## Layers -/

section

variable {table : Table} {context : LayerContext} {kind : LayerKind} {drawing : Drawing}

theorem Table.linePerGroup_keepsColors (source : String) {line : Mark} (name facet : String)
    (once : line.update = []) : (table.linePerGroup source line name facet).keepsColors = true := by
  unfold linePerGroup
  split <;> simp [Graphic.keepsColors, Channels.keepColors, once]

theorem Drawn.keepsColors (drawn : Drawn table context kind drawing) :
    ∀ graphic ∈ drawing.graphics, graphic.keepsColors = true := by
  cases drawn
  case empty => exact List.forall_mem_nil _
  case line | glm | fit | smooth | density | ellipse =>
      exact List.forall_mem_singleton.mpr (Table.linePerGroup_keepsColors _ _ _ rfl)
  case regression =>
      exact List.forall_mem_cons.mpr ⟨rfl,
        List.forall_mem_singleton.mpr (Table.linePerGroup_keepsColors _ _ _ rfl)⟩
  case bars =>
      refine List.forall_mem_singleton.mpr ?_
      split <;> rfl
  case boxplot =>
      intro graphic inside
      simp only [boxplotDrawing, boxplotGraphics, List.mem_cons, List.not_mem_nil, or_false]
        at inside
      rcases inside with rfl | rfl | rfl | rfl | rfl | rfl | rfl <;> rfl
  case means => exact List.forall_mem_cons.mpr ⟨rfl, List.forall_mem_singleton.mpr rfl⟩
  all_goals exact List.forall_mem_singleton.mpr rfl

/-- A table without color groups has no use for the color scale. -/
theorem Drawn.color_grouped (drawn : Drawn table context kind drawing)
    (declared : "color" ∈ drawing.scaleNames) : table.hasColorGroup = true := by
  by_contra grouped
  have ungrouped : table.hasColorGroup = false := by simpa using grouped
  have colorless : ∀ {colors : List Scale}, table.groupColorScale context.style = .ok colors →
      colors = [] := by
    intro colors colored
    rcases Table.groupColorScale_cases colored with ⟨_, none⟩ | ⟨grouped, _⟩
    · exact none
    · rw [ungrouped] at grouped
      cases grouped
  have placed : ∀ {role forceBand source},
      "color" ∉ (table.placeScales [] role forceBand source).map (·.name) := by
    intro role forceBand source
    simp [Table.placeScales]
  have categories : ∀ {padding : Value},
      "color" ∉ (table.categoryScales [] padding).map (·.name) := by
    intro padding
    simp [Table.categoryScales, ungrouped]
  apply absurd declared
  unfold Drawing.scaleNames
  cases drawn with
  | empty => exact List.not_mem_nil
  | points _ _ colored | line _ _ colored | abline _ _ _ _ _ colored | rowVlines _ _ colored
  | valueVlines _ _ _ _ colored | rowHlines _ _ colored | valueHlines _ _ _ _ colored
  | placedPolygon _ _ _ _ _ _ colored | rowPolygon _ _ _ colored | unfitted _ _ _ colored
  | regression _ _ _ _ colored | glm _ _ _ _ colored | fit _ _ _ _ colored
  | smooth _ _ _ _ colored | corner _ _ _ _ colored | ellipse _ _ _ _ _ _ colored
  | jitter _ _ _ _ _ colored _ | swarm _ _ _ _ _ colored _ =>
      rw [colorless colored]
      exact placed
  | boxplot _ _ _ _ colored | means _ _ _ _ colored =>
      rw [colorless colored]
      exact categories
  | violin _ _ _ _ _ _ colored =>
      rw [colorless colored]
      simp [violinDrawing, violinScale, categories, ScaleName.text]
  | raster _ _ colored =>
      rw [colorless colored]
      simp [rasterDrawing]
  | interval _ _ _ colored =>
      rw [colorless colored]
      simp [intervalDrawing, intervalScale]
  | freePolygon => simp [vertexPolygon, vertexScales, ScaleName.text]
  | bars _ _ _ colored =>
      rw [colorless colored]
      simp [barsDrawing, barScales]
  | histogram _ _ _ _ colored =>
      rw [colorless colored]
      simp [histogramDrawing]
  | heatmap => simp [heatmapDrawing, heatScale, ScaleName.text]
  | density _ _ _ _ _ _ colored =>
      rw [colorless colored]
      simp [densityDrawing]
  | quantiles _ _ _ colored =>
      rw [colorless colored]
      simp [quantilesDrawing, quantileScale, ScaleName.text]

end

end ChartCompiler
