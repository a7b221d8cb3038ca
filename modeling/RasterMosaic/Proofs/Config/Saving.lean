import RasterMosaic.Config.Json
import RasterMosaic.Proofs.Json.Record
import RasterMosaic.Proofs.Pyramid.TileSize
import RasterMosaic.Proofs.Sample.Widths

/-!
Configurations that are saved and loaded again. Whatever text a configuration was loaded from, all
of it is found again but a background that is not finite: its null stands for an absent one. That
is the same background when it was NaN, and another when it was infinite.
-/

namespace RasterMosaic
namespace Config
open JsonCodec Float.Model

theorem ofText_eq_ok_iff {text : String} {c : Config} :
    ofText text = .ok c ↔ read? text = some c ∧ c.check = .ok () := by
  rw [ofText]
  cases (read? text : Option Config) with
  | none => exact iff_of_false nofun nofun
  | some read =>
      rw [Option.some_inj]
      dsimp only
      split
      · next cause failed =>
        refine iff_of_false nofun ?_
        rintro ⟨rfl, checked⟩
        cases failed.symm.trans checked
      · next checked =>
        rw [Except.ok.injEq]
        exact ⟨fun same => ⟨same, same ▸ checked⟩, And.left⟩

/-- The sizes are machine words. -/
structure Words (c : Config) : Prop where
  minTileSize : c.minTileSize < Json.wordLimit
  maxTileSize : c.maxTileSize < Json.wordLimit
  tileGranularity : c.tileGranularity < Json.wordLimit

theorem words_of_ofJson? {j : Json} {c : Config} (read : ofJson? j = some c) : c.Words := by
  have word {f : Json.Fields} {name : String} {default value : Nat}
      (small : default < Json.wordLimit) (read : f.withDefault? name default = some value) :
      value < Json.wordLimit := by
    obtain rfl | ⟨_, read⟩ := Json.Fields.withDefault?_eq_some read
    · exact small
    · exact lt_wordLimit_of_ofJson? read
  simp only [ofJson?, Option.bind_eq_bind, Option.bind_eq_some_iff] at read
  obtain ⟨f, _, fill, _, background, _, least, hleast, most, hmost, granularity, hgranularity, _, _,
    made⟩ := read
  cases made
  exact ⟨word (by decide) hleast, word (by decide) hmost, word (by decide) hgranularity⟩

/-- The fields a configuration is written with. -/
def members (c : Config) : List (String × Json) := [
  ("fill_value", toJson c.fillValue),
  ("background_value", toJson c.backgroundValue),
  ("min_tile_size", toJson c.minTileSize),
  ("max_tile_size", toJson c.maxTileSize),
  ("tile_granularity", toJson c.tileGranularity),
  ("parallel_prefetch", toJson c.parallelPrefetch)]

theorem toJson_eq_record (c : Config) : toJson c = .record c.members := rfl

theorem members_distinct (c : Config) : (c.members.map Prod.fst).Nodup :=
  show fieldNames.Nodup by decide

theorem toJson_wellFormed (c : Config) : (toJson c).WellFormed := by
  have background : (toJson c.backgroundValue).WellFormed := by
    cases c.backgroundValue with
    | none => exact .null
    | some x => exact Json.ofFloat32_wellFormed x
  refine Json.record_wellFormed ?_
  simp only [List.forall_mem_cons]
  exact ⟨Json.ofFloat32_wellFormed _, background, Json.ofNat_wellFormed _, Json.ofNat_wellFormed _,
    Json.ofNat_wellFormed _, .bool _, nofun⟩

/-- A configuration is read back field by field. -/
theorem read?_write {c : Config} (words : c.Words) {fill : Float32} {background : Option Float32}
    (hfill : ofJson? (toJson c.fillValue) = some fill)
    (hbackground : ofJson? (toJson c.backgroundValue) = some background) :
    read? (write c) = some { c with fillValue := fill, backgroundValue := background } := by
  have field {α : Type} [JsonCodec α] {name : String} {j : Json} (i : Nat)
      (here : c.members[i]? = some (name, j)) (default : α) :
      Json.Fields.withDefault? ⟨c.members, false⟩ name default = ofJson? j :=
    Json.Fields.withDefault?_of_mem c.members_distinct (List.mem_of_getElem? here) default
  have found := Json.fields?_record c.members_distinct fieldNames
  rw [JsonCodec.read?_write c.toJson_wellFormed, toJson_eq_record]
  simp only [ofJson?, found, Option.bind_eq_bind, Option.bind_some]
  rw [field 0 rfl, field 1 rfl, field 2 rfl, field 3 rfl, field 4 rfl, field 5 rfl, hfill,
    hbackground, ofJson?_toJson_nat words.minTileSize, ofJson?_toJson_nat words.maxTileSize,
    ofJson?_toJson_nat words.tileGranularity]
  rfl

/-- A background that is not finite is read back as absent. -/
theorem ofJson?_toJson_backgroundValue {background : Option Float32}
    (readsBack : ∀ x, background = some x → x.isFinite = true → ReadsBack x) :
    ofJson? (toJson background) = some (background.filter Float32.isFinite) := by
  cases background with
  | none => rfl
  | some x =>
      cases finite : x.isFinite with
      | false =>
          have absent : toJson (some x) = .null := Json.ofFloat32_eq_null_iff.mpr finite
          rw [ofJson?_toJson_of_eq_null absent, Option.filter_some, if_neg (by simp [finite])]
      | true =>
          have given : toJson x ≠ .null := fun absent =>
            Bool.false_ne_true ((Json.ofFloat32_eq_null_iff.mp absent).symm.trans finite)
          have back := readsBack x rfl finite
          rw [ReadsBack, JsonCodec.read?_write (Json.ofFloat32_wellFormed x)] at back
          rw [ofJson?_toJson_some given, back, Option.filter_some, if_pos finite]
          rfl

theorem background_filter_eq_iff {c : Config} :
    (c.backgroundValue.filter Float32.isFinite).getD Sample.notANumber = c.background ↔
      c.background.isInf = false := by
  have finite (x : Float32) : x.isFinite = x.toModel.unpack.isFinite := rfl
  have infinite (x : Float32) : x.isInf = x.toModel.unpack.isInf := rfl
  have nan : Sample.notANumber = Float32.nan ∧ Sample.notANumber.isInf = false := by decide +kernel
  rw [background]
  cases c.backgroundValue with
  | none => exact iff_of_true rfl nan.2
  | some x =>
      rw [Option.filter_some, Option.getD_some, finite, infinite]
      cases kind : x.toModel.unpack with
      | zero sign => exact iff_of_true rfl rfl
      | finite sign m e pos => exact iff_of_true rfl rfl
      | notANumber =>
          exact iff_of_true (nan.1.trans (Sample.eq_nan_of_unpack kind).symm) rfl
      | infinity sign =>
          refine iff_of_false (fun same : Sample.notANumber = x => ?_) nofun
          rw [same, infinite, kind] at nan
          exact Bool.false_ne_true nan.2.symm

/-- What is saved of a loaded configuration is accepted again, and differs in the background at
most: one that is not finite is gone, which shows when it was infinite. -/
theorem saved_and_reloaded {text : String} {c : Config} (accepted : ofText text = .ok c)
    (readsBack : ∀ x : Float32, x = c.fillValue ∨ c.backgroundValue = some x →
      x.isFinite = true → ReadsBack x) :
    ∃ again, ofText (write c) = .ok again ∧
      again.fillValue = c.fillValue ∧ again.minTileSize = c.minTileSize ∧
      again.maxTileSize = c.maxTileSize ∧ again.tileGranularity = c.tileGranularity ∧
      again.parallelPrefetch = c.parallelPrefetch ∧
      again.backgroundValue = c.backgroundValue.filter Float32.isFinite ∧
      (again.background = c.background ↔ c.background.isInf = false) := by
  obtain ⟨read, checked⟩ := ofText_eq_ok_iff.mp accepted
  have words : c.Words := by
    obtain ⟨j, _, loaded⟩ := Option.bind_eq_some_iff.mp read
    exact words_of_ofJson? loaded
  have fill : ofJson? (toJson c.fillValue) = some c.fillValue := by
    rw [← JsonCodec.read?_write (Json.ofFloat32_wellFormed c.fillValue)]
    exact readsBack c.fillValue (.inl rfl) (check_eq_ok_iff.mp checked).2.2.2
  have background := ofJson?_toJson_backgroundValue fun x given => readsBack x (.inr given)
  exact ⟨_, ofText_eq_ok_iff.mpr ⟨read?_write words fill background, checked⟩, rfl, rfl, rfl, rfl,
    rfl, rfl, background_filter_eq_iff⟩

/-! ### Two texts -/

theorem readsBack_zero : ReadsBack (0 : Float32) :=
  show (read? (write 0) : Option Float32) = some 0 by decide +kernel

/-- A text with a background and a size of its own. -/
def seaText : String := "\x7b\"background_value\":-2.5,\"max_tile_size\":1024\x7d"

theorem saved_and_reloaded_sea :
    ∃ c, ofText seaText = .ok c ∧ c.backgroundValue = some (-2.5) ∧
      (∀ x : Float32, x = c.fillValue ∨ c.backgroundValue = some x → x.isFinite = true →
        ReadsBack x) ∧
      ∃ again, ofText (write c) = .ok again ∧ again.maxTileSize = 1024 ∧
        again.background = c.background := by
  have accepted : ofText seaText = .ok { backgroundValue := some (-2.5), maxTileSize := 1024 } :=
    ofText_eq_ok_iff.mpr ⟨by decide +kernel, by decide +kernel⟩
  have background : (read? (write (-2.5 : Float32)) : Option Float32) = some (-2.5) := by
    decide +kernel
  have readsBack : ∀ x : Float32, x = 0 ∨ some (-2.5) = some x → x.isFinite = true →
      ReadsBack x := by
    rintro x (rfl | same) _
    · exact readsBack_zero
    · cases same
      exact background
  obtain ⟨again, saved, _, _, most, _, _, _, same⟩ := saved_and_reloaded accepted readsBack
  exact ⟨_, accepted, rfl, readsBack, again, saved, most, same.mpr (by decide +kernel)⟩

/-- A text with a background beyond the narrow format. -/
def overflowingText : String := "\x7b\"background_value\":1e39\x7d"

/-- An infinite background is accepted and written as null, which is read as NaN. -/
theorem infinite_background_lost :
    ∃ c, ofText overflowingText = .ok c ∧ c.background = 1 / 0 ∧
      (∀ x : Float32, x = c.fillValue ∨ c.backgroundValue = some x → x.isFinite = true →
        ReadsBack x) ∧
      toJson c.backgroundValue = .null ∧
      ∃ again, ofText (write c) = .ok again ∧ again.background = Sample.notANumber ∧
        again.background ≠ c.background := by
  have accepted : ofText overflowingText = .ok { backgroundValue := some (1 / 0) } :=
    ofText_eq_ok_iff.mpr ⟨by decide +kernel, by decide +kernel⟩
  have infinite : (1 / 0 : Float32).isFinite = false := by decide +kernel
  have saved : ofText (write ({ backgroundValue := some (1 / 0) } : Config)) = .ok {} :=
    ofText_eq_ok_iff.mpr ⟨by decide +kernel, by decide +kernel⟩
  refine ⟨_, accepted, rfl, ?_, Json.ofFloat32_eq_null_iff.mpr infinite, _, saved, rfl,
    by decide +kernel⟩
  rintro x (rfl | same) finite
  · exact readsBack_zero
  · cases same
    cases infinite.symm.trans finite

end Config
end RasterMosaic
