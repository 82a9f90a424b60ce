import FramedLines.Options.Json
import FramedLines.Proofs.Layout

-- Options, limits and sizes survive JSON. An object gives the fields that stand in it, in any
-- layout and among any others, and what is printed is read back.

namespace FramedLines

namespace Json

variable {members : List (Option (List Char) × Json)} {name : String}

-- The values that stand in an object under one name.
def valuesOf (members : List (Option (List Char) × Json)) (name : String) : List Json :=
  (members.filter (·.1 == some name.toList)).map Prod.snd

def mentions (members : List (Option (List Char) × Json)) (name : String) : Bool :=
  !(valuesOf members name).isEmpty

-- The value of a field: its name and what can stand for the value.
structure FieldValue where
  name : String
  Means : Json → Prop

-- An object that gives some of the fields, in any order. Whatever has another name is no matter.
structure Gives (fields : List FieldValue) (members : List (Option (List Char) × Json)) : Prop where
  named : ∀ member ∈ members, member.1.isSome
  once : ∀ field ∈ fields, (valuesOf members field.name).length ≤ 1
  said : ∀ field ∈ fields, ∀ json ∈ valuesOf members field.name, field.Means json

theorem natural?_ofNat (value : Nat) : natural? (ofNat value) = some value := by
  have hdigits : (Nat.toDigits 10 value).all Char.isDigit :=
    List.all_eq_true.mpr fun _ hc => Nat.isDigit_of_mem_toDigits (by decide) (by decide) hc
  have hvalue : decimal (Nat.toDigits 10 value) = value :=
    Nat.ofDigitChars_toDigits (by decide) (by decide)
  rw [ofNat, natural?, if_pos hdigits, hvalue]

theorem below?_ofNat {value bound : Nat} (h : value < bound) :
    below? bound (ofNat value) = some value := by
  rw [below?, natural?_ofNat, Option.filter_some, if_pos (decide_eq_true h)]

theorem word?_ofWord (value : UInt64) : (ofWord value).word? = some value := by
  rw [word?, ofWord, below?_ofNat value.toNat_lt_size, Option.map_some]
  exact congrArg some UInt64.ofNat_toNat

theorem whole_toDigits (value : Nat) : Whole (Nat.toDigits 10 value) := by
  by_cases hzero : value = 0
  · subst hzero
    exact .inl rfl
  · refine .inr ⟨⟨Nat.toDigits_ne_nil,
      fun _ hc => Nat.isDigit_of_mem_toDigits (by decide) (by decide) hc⟩, ?_⟩
    induction value using Nat.strongRecOn with
    | ind value ih =>
        by_cases hsmall : value < 10
        · rw [Nat.toDigits_of_lt_base hsmall]
          have hdigit : ∀ digit : Fin 10, digit.val ≠ 0 →
              [Nat.digitChar digit].head? ≠ some '0' := by decide
          exact hdigit ⟨value, hsmall⟩ hzero
        · have hhead := ih (value / 10) (by omega) (by omega)
          rw [Nat.toDigits_of_base_le (by decide) (by omega),
            List.head?_append_of_ne_nil _ Nat.toDigits_ne_nil]
          exact hhead

theorem printable_ofNat (value : Nat) : Printable (ofNat value) := by
  have hnumeral := Numeral.positive (whole_toDigits value) .none .none
  rw [List.append_nil, List.append_nil] at hnumeral
  exact .number hnumeral

theorem mapM_eq_map {α β : Type} {read : α → Option β} {value : α → β} {items : List α}
    (h : ∀ item ∈ items, read item = some (value item)) :
    items.mapM read = some (items.map value) := by
  induction items with
  | nil => rfl
  | cons item items ih =>
      rw [List.mapM_cons, h item (List.mem_cons_self ..),
        ih fun item hitem => h item (List.mem_cons_of_mem _ hitem)]
      rfl

theorem mem_of_mapM {α β : Type} {read : α → Option β} {items : List α} {values : List β}
    (h : items.mapM read = some values) {item : α} (hitem : item ∈ items) :
    ∃ value ∈ values, read item = some value := by
  induction items generalizing values with
  | nil => cases hitem
  | cons first items ih =>
      simp only [List.mapM_cons, Option.bind_eq_bind, Option.bind_eq_some_iff, Option.pure_def,
        Option.some.injEq] at h
      obtain ⟨value, hvalue, more, hmore, rfl⟩ := h
      obtain rfl | hitem := List.mem_cons.mp hitem
      · exact ⟨value, List.mem_cons_self .., hvalue⟩
      · obtain ⟨found, hfound, hread⟩ := ih hmore hitem
        exact ⟨found, List.mem_cons_of_mem _ hfound, hread⟩

-- The members of an object whose names have texts.
def texts (members : List (Option (List Char) × Json)) : List (String × Json) :=
  members.map fun member => (String.ofList (member.1.getD []), member.2)

theorem mapM_texts (hnamed : ∀ member ∈ members, member.1.isSome) :
    members.mapM (fun (name, value) => name.map (String.ofList ·, value)) =
      some (texts members) := by
  refine mapM_eq_map fun member hmember => ?_
  obtain ⟨text, htext⟩ := Option.isSome_iff_exists.mp (hnamed member hmember)
  simp only [htext, Option.map_some, Option.getD_some]

theorem filter_texts (hnamed : ∀ member ∈ members, member.1.isSome) (name : String) :
    (texts members).filter (·.1 == name) = (valuesOf members name).map (name, ·) := by
  have hsame (member : Option (List Char) × Json) (hmember : member ∈ members) :
      (String.ofList (member.1.getD []) == name) = (member.1 == some name.toList) := by
    obtain ⟨text, htext⟩ := Option.isSome_iff_exists.mp (hnamed member hmember)
    rw [htext, Option.getD_some, Bool.eq_iff_iff, beq_iff_eq, beq_iff_eq, Option.some.injEq,
      ← String.toList_inj, String.toList_ofList]
  rw [texts, List.filter_map, valuesOf, List.map_map, ← List.filter_congr hsame]
  refine List.map_congr_left fun member hmember => ?_
  rw [← beq_iff_eq.mp (List.mem_filter.mp hmember).2]
  rfl

-- The slots of an object that names each field at most once.
theorem slots?_object (names : List String) (closed : Bool)
    (hnamed : ∀ member ∈ members, member.1.isSome)
    (hclosed : closed = true → ∀ member ∈ members, ∃ name ∈ names, member.1 = some name.toList)
    (honce : ∀ name ∈ names, (valuesOf members name).length ≤ 1) :
    (Json.object members).slots? names closed =
      some (names.map fun name => (valuesOf members name).head?) := by
  simp only [slots?, mapM_texts hnamed, filter_texts hnamed]
  refine (if_neg fun hstranger => ?_).trans (mapM_eq_map fun name hname => ?_)
  · obtain ⟨hclosing, hany⟩ := Bool.and_eq_true_iff.mp hstranger
    obtain ⟨entry, hentry, hunknown⟩ := List.any_eq_true.mp hany
    obtain ⟨member, hmember, rfl⟩ := List.mem_map.mp hentry
    obtain ⟨name, hname, htext⟩ := hclosed hclosing member hmember
    simp [htext, hname] at hunknown
  · have hlength := honce name hname
    rcases hvalues : valuesOf members name with _ | ⟨value, _ | ⟨second, values⟩⟩
    · rfl
    · rfl
    · rw [hvalues] at hlength
      simp at hlength

-- A field that stands in the object is read from there, and any other takes its default.
theorem slotOr?_given {α : Type} {read : Json → Option α} (default : α) {value : α}
    {field : FieldValue} {fields : List FieldValue}
    (hread : ∀ json, field.Means json → read json = some value) (hgives : Gives fields members)
    (hfield : field ∈ fields) :
    slotOr? read default (valuesOf members field.name).head? =
      some (if mentions members field.name then value else default) := by
  have hsaid := hgives.said field hfield
  rw [mentions]
  cases hvalues : valuesOf members field.name with
  | nil => rfl
  | cons json values =>
      have hmeans := hsaid json (by rw [hvalues]; exact List.mem_cons_self ..)
      simp only [List.head?_cons, slotOr?, hread json hmeans, List.isEmpty_cons, Bool.not_false,
        if_true]

end Json

open Json

namespace Duration

-- What can be written for a span: its two parts by name in any order, or one behind the other.
-- The nanoseconds may make more than a second.
inductive Means (d : Duration) : Json → Prop where
  | object {seconds nanos : Nat} {members : List (Option (List Char) × Json)}
      (hseconds : seconds < UInt64.size) (hnanos : nanos < UInt32.size)
      (hsum : seconds * second + nanos = d.nanos)
      (hperm : members.Perm [named "secs" (.ofNat seconds), named "nanos" (.ofNat nanos)]) :
      Means d (.object members)
  | array {seconds nanos : Nat} (hseconds : seconds < UInt64.size) (hnanos : nanos < UInt32.size)
      (hsum : seconds * second + nanos = d.nanos) :
      Means d (.array [.ofNat seconds, .ofNat nanos])

theorem ofParts?_eq {seconds nanos : Nat} {d : Duration}
    (hsum : seconds * second + nanos = d.nanos) : ofParts? seconds nanos = some d := by
  have hbounded : seconds * second + nanos < UInt64.size * second := hsum ▸ d.bounded
  rw [ofParts?, dif_pos hbounded]
  exact congrArg some (by cases d; simp only [Duration.mk.injEq]; exact hsum)

theorem ofJson?_slots {d : Duration} {json : Json} {seconds nanos : Nat}
    (hslots : json.slots? ["secs", "nanos"] true =
      some [some (.ofNat seconds), some (.ofNat nanos)])
    (hseconds : seconds < UInt64.size) (hnanos : nanos < UInt32.size)
    (hsum : seconds * second + nanos = d.nanos) : Duration.ofJson? json = some d := by
  rw [Duration.ofJson?, hslots]
  change (below? UInt64.size (.ofNat seconds)).bind _ = _
  rw [below?_ofNat hseconds, Option.bind_some]
  change (below? UInt32.size (.ofNat nanos)).bind _ = _
  rw [below?_ofNat hnanos, Option.bind_some, ofParts?_eq hsum]

theorem slots?_parts {members : List (Option (List Char) × Json)} {seconds nanos : Json}
    (hperm : members.Perm [named "secs" seconds, named "nanos" nanos]) :
    (Json.object members).slots? ["secs", "nanos"] true = some [some seconds, some nanos] := by
  have hvalues (name : String) : (valuesOf members name).Perm
      (valuesOf [named "secs" seconds, named "nanos" nanos] name) := (hperm.filter _).map _
  have hseconds : valuesOf members "secs" = [seconds] :=
    List.perm_singleton.mp (by simpa [valuesOf, named] using hvalues "secs")
  have hnanos : valuesOf members "nanos" = [nanos] :=
    List.perm_singleton.mp (by simpa [valuesOf, named] using hvalues "nanos")
  have hnames (member : Option (List Char) × Json) (hmember : member ∈ members) :
      ∃ name ∈ ["secs", "nanos"], member.1 = some name.toList := by
    have hmember := hperm.mem_iff.mp hmember
    simp only [List.mem_cons, List.not_mem_nil, or_false] at hmember
    obtain rfl | rfl := hmember
    · exact ⟨"secs", by simp, rfl⟩
    · exact ⟨"nanos", by simp, rfl⟩
  have hnamed (member : Option (List Char) × Json) (hmember : member ∈ members) :
      member.1.isSome := by
    obtain ⟨name, -, htext⟩ := hnames member hmember
    rw [htext]
    rfl
  rw [slots?_object _ _ hnamed (fun _ => hnames) (by simp [hseconds, hnanos])]
  simp only [List.map_cons, List.map_nil, hseconds, hnanos, List.head?_cons]

theorem ofJson?_means {d : Duration} {json : Json} (h : d.Means json) :
    Duration.ofJson? json = some d := by
  cases h with
  | object hseconds hnanos hsum hperm =>
      exact ofJson?_slots (slots?_parts hperm) hseconds hnanos hsum
  | array hseconds hnanos hsum => exact ofJson?_slots rfl hseconds hnanos hsum

-- Nothing else may stand beside the two parts.
theorem ofJson?_unknown {members : List (Option (List Char) × Json)}
    {member : Option (List Char) × Json} (hmember : member ∈ members)
    (hseconds : member.1 ≠ some "secs".toList) (hnanos : member.1 ≠ some "nanos".toList) :
    Duration.ofJson? (.object members) = none := by
  have hslots : (Json.object members).slots? ["secs", "nanos"] true = none := by
    rw [slots?]
    split
    · rfl
    · next read hread =>
        obtain ⟨⟨name, value⟩, hmem, hname⟩ := mem_of_mapM hread hmember
        obtain ⟨text, htext, hpair⟩ := Option.map_eq_some_iff.mp hname
        obtain rfl := (Prod.mk.inj hpair).1
        have hother (known : String) (hne : member.1 ≠ some known.toList) :
            String.ofList text ≠ known := by
          rintro rfl
          exact hne (by rw [htext, String.toList_ofList])
        refine if_pos ?_
        rw [Bool.true_and]
        exact List.any_eq_true.mpr
          ⟨_, hmem, by simp [hother "secs" hseconds, hother "nanos" hnanos]⟩
  rw [Duration.ofJson?, hslots]

theorem means_toJson (d : Duration) : d.Means d.toJson := by
  have hbounded := d.bounded
  refine .object ?_ ?_ ?_ (.refl _)
  · exact Nat.div_lt_of_lt_mul (by rwa [Nat.mul_comm])
  · have hnanos : d.subsecNanos < second := Nat.mod_lt _ (by decide)
    exact Nat.lt_trans hnanos (by decide)
  · rw [wholeSeconds, subsecNanos, Nat.mul_comm]
    exact Nat.div_add_mod d.nanos second

theorem printable_toJson (d : Duration) : Printable d.toJson := by
  refine .object (fun member hmember => ?_) fun member hmember => ?_ <;>
    simp only [List.mem_cons, List.not_mem_nil, or_false] at hmember <;>
    rcases hmember with rfl | rfl
  · rfl
  · rfl
  · exact printable_ofNat _
  · exact printable_ofNat _

end Duration

-- What can be written for a timeout: the span it is, or `null` for none.
def TimeoutMeans (timeout : Option Duration) (json : Json) : Prop :=
  match timeout with
  | none => json = .null
  | some d => d.Means json

theorem timeout?_means {timeout : Option Duration} {json : Json} (h : TimeoutMeans timeout json) :
    json.timeout? = some timeout := by
  cases timeout with
  | none =>
      obtain rfl : json = .null := h
      rfl
  | some d =>
      have hread := Duration.ofJson?_means h
      cases h <;> exact congrArg (Option.map some) hread

theorem means_ofTimeout (timeout : Option Duration) : TimeoutMeans timeout (ofTimeout timeout) := by
  cases timeout with
  | none => exact rfl
  | some d => exact d.means_toJson

theorem printable_ofTimeout (timeout : Option Duration) : Printable (ofTimeout timeout) := by
  cases timeout with
  | none => exact .null
  | some d => exact d.printable_toJson

namespace Limits

def fields (limits : Limits) : List FieldValue :=
  [⟨"max_frame_len", (· = ofWord limits.maxFrameLen)⟩,
    ⟨"max_frames", (· = ofWord limits.maxFrames)⟩,
    ⟨"drain_oversize_up_to", (· = ofWord limits.drainOversizeUpTo)⟩]

-- The limits whose names are written, with defaults for the others.
def given (limits : Limits) (written : String → Bool) : Limits :=
  let default : Limits := {}
  { maxFrameLen := if written "max_frame_len" then limits.maxFrameLen else default.maxFrameLen
    maxFrames := if written "max_frames" then limits.maxFrames else default.maxFrames
    drainOversizeUpTo :=
      if written "drain_oversize_up_to" then limits.drainOversizeUpTo
      else default.drainOversizeUpTo }

theorem ofJson?_given {limits : Limits} {members : List (Option (List Char) × Json)}
    (h : Gives limits.fields members) :
    Limits.ofJson? (.object members) = some (limits.given (mentions members)) := by
  have hslots := slots?_object (limits.fields.map FieldValue.name) false h.named (by simp)
    (by simpa using h.once)
  have hword (value : UInt64) (json : Json) (hmeans : json = ofWord value) :
      json.word? = some value := hmeans ▸ word?_ofWord value
  have hlen := fun default => slotOr?_given default (hword limits.maxFrameLen) h (.head _)
  have hframes := fun default =>
    slotOr?_given default (hword limits.maxFrames) h (.tail _ (.head _))
  have hdrain := fun default =>
    slotOr?_given default (hword limits.drainOversizeUpTo) h (.tail _ (.tail _ (.head _)))
  simp only [fields, List.map_cons, List.map_nil] at hslots
  simp only [Limits.ofJson?, hslots, hlen, hframes, hdrain, Option.bind_eq_bind, Option.bind_some]
  rfl

theorem written_toJson (limits : Limits) :
    ∃ members, limits.toJson = .object members ∧ Printable limits.toJson ∧
      Gives limits.fields members ∧ limits.given (mentions members) = limits := by
  refine ⟨_, rfl, .object ?_ ?_, ⟨?_, ?_, ?_⟩, ?_⟩
  · simp [named]
  · simp [named, ofWord, printable_ofNat]
  · simp [named]
  · simp [fields, named, valuesOf]
  · simp [fields, named, valuesOf]
  · simp [given, named, mentions, valuesOf]

end Limits

namespace ManagerConfig

def fields (config : ManagerConfig) : List FieldValue :=
  [⟨"inproc_buffer_size", (· = ofWord config.inprocBufferSize)⟩,
    ⟨"accept_poll_interval", config.acceptPollInterval.Means⟩]

def given (config : ManagerConfig) (written : String → Bool) : ManagerConfig :=
  let default : ManagerConfig := {}
  { inprocBufferSize :=
      if written "inproc_buffer_size" then config.inprocBufferSize else default.inprocBufferSize
    acceptPollInterval :=
      if written "accept_poll_interval" then config.acceptPollInterval
      else default.acceptPollInterval }

theorem ofJson?_given {config : ManagerConfig} {members : List (Option (List Char) × Json)}
    (h : Gives config.fields members) :
    ManagerConfig.ofJson? (.object members) = some (config.given (mentions members)) := by
  have hslots := slots?_object (config.fields.map FieldValue.name) false h.named (by simp)
    (by simpa using h.once)
  have hword (json : Json) (hmeans : json = ofWord config.inprocBufferSize) :
      json.word? = some config.inprocBufferSize := hmeans ▸ word?_ofWord _
  have hsize := fun default => slotOr?_given default hword h (.head _)
  have hinterval := fun default => slotOr?_given default
    (fun _ => Duration.ofJson?_means) h (.tail _ (.head _))
  simp only [fields, List.map_cons, List.map_nil] at hslots
  simp only [ManagerConfig.ofJson?, hslots, hsize, hinterval, Option.bind_eq_bind, Option.bind_some]
  rfl

theorem written_toJson (config : ManagerConfig) :
    ∃ members, config.toJson = .object members ∧ Printable config.toJson ∧
      Gives config.fields members ∧ config.given (mentions members) = config := by
  refine ⟨_, rfl, .object ?_ ?_, ⟨?_, ?_, ?_⟩, ?_⟩
  · simp [named]
  · simp [named, ofWord, printable_ofNat, Duration.printable_toJson]
  · simp [named]
  · simp [fields, named, valuesOf]
  · simp [fields, named, valuesOf, Duration.means_toJson]
  · simp [given, named, mentions, valuesOf]

end ManagerConfig

namespace LineOptions

def fields (options : LineOptions) : List FieldValue :=
  [⟨"receive_timeout", TimeoutMeans options.receiveTimeout⟩,
    ⟨"send_timeout", TimeoutMeans options.sendTimeout⟩]

def given (options : LineOptions) (written : String → Bool) : LineOptions :=
  { receiveTimeout := if written "receive_timeout" then options.receiveTimeout else none
    sendTimeout := if written "send_timeout" then options.sendTimeout else none }

theorem ofJson?_given {options : LineOptions} {members : List (Option (List Char) × Json)}
    (h : Gives options.fields members) :
    LineOptions.ofJson? (.object members) = some (options.given (mentions members)) := by
  have hslots := slots?_object (options.fields.map FieldValue.name) false h.named (by simp)
    (by simpa using h.once)
  have hreceive := fun default => slotOr?_given default
    (fun _ => timeout?_means) h (.head _)
  have hsend := fun default => slotOr?_given default
    (fun _ => timeout?_means) h (.tail _ (.head _))
  simp only [fields, List.map_cons, List.map_nil] at hslots
  simp only [LineOptions.ofJson?, hslots, hreceive, hsend, Option.bind_eq_bind, Option.bind_some]
  rfl

theorem written_toJson (options : LineOptions) :
    ∃ members, options.toJson = .object members ∧ Printable options.toJson ∧
      Gives options.fields members ∧ options.given (mentions members) = options := by
  refine ⟨_, rfl, .object ?_ ?_, ⟨?_, ?_, ?_⟩, ?_⟩
  · simp [named]
  · simp [named, printable_ofTimeout]
  · simp [named]
  · simp [fields, named, valuesOf]
  · simp [fields, named, valuesOf, means_ofTimeout]
  · simp [given, named, mentions, valuesOf]

end LineOptions

namespace Json

-- How configurations of one kind come through JSON.
structure Survives {α : Type} (fields : α → List FieldValue) (given : α → (String → Bool) → α)
    (ofText? : String → Option α) (toText : α → String) : Prop where
  -- an object gives what stands in it, in any layout, and nothing else
  reads {value : α} {members : List (Option (List Char) × Json)} {text : String}
    (hwritten : (Json.object members).Written text) (hgives : Gives (fields value) members) :
    ofText? text = some (given value (mentions members))
  -- what is printed is such an object, with all the fields
  prints (value : α) : ∃ members, (Json.object members).Written (toText value) ∧
    Gives (fields value) members ∧ given value (mentions members) = value
  returns (value : α) : ofText? (toText value) = some value
  settles {text : String} {value : α} (h : ofText? text = some value) :
    ofText? (toText value) = some value

theorem survives {α : Type} {fields : α → List FieldValue} {given : α → (String → Bool) → α}
    {ofJson? : Json → Option α} {toJson : α → Json}
    (hgiven : ∀ {value members}, Gives (fields value) members →
      ofJson? (.object members) = some (given value (mentions members)))
    (hprinted : ∀ value, ∃ members, toJson value = .object members ∧ Printable (toJson value) ∧
      Gives (fields value) members ∧ given value (mentions members) = value) :
    Survives fields given (fun text => (parse? text).bind ofJson?)
      (fun value => (toJson value).render) := by
  have hreads {value : α} {members : List (Option (List Char) × Json)} {text : String}
      (hwritten : (Json.object members).Written text) (hgives : Gives (fields value) members) :
      (parse? text).bind ofJson? = some (given value (mentions members)) := by
    rw [parse?_of_written hwritten, Option.bind_some, hgiven hgives]
  have hprints (value : α) : ∃ members, (Json.object members).Written (toJson value).render ∧
      Gives (fields value) members ∧ given value (mentions members) = value := by
    obtain ⟨members, hjson, hprintable, hgives, hall⟩ := hprinted value
    exact ⟨members, hjson ▸ written_render hprintable, hgives, hall⟩
  have hreturns (value : α) : (parse? (toJson value).render).bind ofJson? = some value := by
    obtain ⟨members, hwritten, hgives, hall⟩ := hprints value
    rw [hreads hwritten hgives, hall]
  exact ⟨hreads, hprints, hreturns, fun {_ value} _ => hreturns value⟩

end Json

-- Whatever the layout, the order and the company of its fields, an object is read as the values
-- it gives and defaults for the rest. What is printed is read back, also after a reading. Only
-- inside a span is there nothing to pass over.
theorem configurations_survive :
    Survives Limits.fields Limits.given Limits.ofText? Limits.toText ∧
    Survives ManagerConfig.fields ManagerConfig.given ManagerConfig.ofText? ManagerConfig.toText ∧
    Survives LineOptions.fields LineOptions.given LineOptions.ofText? LineOptions.toText ∧
    ∀ members member, member ∈ members → member.1 ≠ some "secs".toList →
      member.1 ≠ some "nanos".toList → Duration.ofJson? (.object members) = none :=
  ⟨survives Limits.ofJson?_given Limits.written_toJson,
    survives ManagerConfig.ofJson?_given ManagerConfig.written_toJson,
    survives LineOptions.ofJson?_given LineOptions.written_toJson,
    fun _ _ => Duration.ofJson?_unknown⟩

-- Pieces apart, an escape in a name, a stranger with parts of its own, and a span whose
-- nanoseconds make more than a second.
example :
    ManagerConfig.ofText? "\x7b \"x\": [1.5e3, \x7b\"y\": null\x7d],
      \"accept_poll_int\\u0065rval\" :\n \x7b\"nanos\": 1500000000, \"secs\": 2\x7d \x7d" =
      some { acceptPollInterval := ⟨3500000000, by decide⟩ } := by decide +kernel

end FramedLines
