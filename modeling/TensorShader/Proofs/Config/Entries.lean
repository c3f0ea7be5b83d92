import TensorShader.Proofs.Config.Integers

/-! Reading settings drops nothing: it succeeds exactly if the keys of the entries differ, are known
and have admissible values, and then each setting has the value of its entry, or its default if it
has none. So the order of the entries plays no part. -/

namespace TensorShader

theorem Precision.ofQualifier?_eq_some_iff {text : String} {p : Precision} :
    ofQualifier? text = some p ↔ text = p.qualifier := by
  constructor
  · intro h
    unfold ofQualifier? at h
    split at h <;> cases h <;> rfl
  · rintro rfl
    cases p <;> rfl

theorem Precision.exists_qualifier_iff {text : String} :
    text ∈ ["lowp", "mediump", "highp"] ↔ ∃ p : Precision, text = p.qualifier := by
  constructor
  · simp only [List.mem_cons, List.not_mem_nil, or_false]
    rintro (h | h | h)
    exacts [⟨.low, h⟩, ⟨.medium, h⟩, ⟨.high, h⟩]
  · rintro ⟨p, rfl⟩
    cases p <;> decide

theorem Packing.ofName?_eq_some_iff {text : String} {p : Packing} :
    ofName? text = some p ↔ text = p.name := by
  constructor
  · intro h
    unfold ofName? at h
    split at h <;> cases h <;> rfl
  · rintro rfl
    cases p <;> rfl

theorem Packing.exists_name_iff {text : String} :
    text ∈ ["plain", "channel_major"] ↔ ∃ p : Packing, text = p.name := by
  constructor
  · simp only [List.mem_cons, List.not_mem_nil, or_false]
    rintro (h | h)
    exacts [⟨.plain, h⟩, ⟨.channelMajor, h⟩]
  · rintro ⟨p, rfl⟩
    cases p <;> decide

namespace Config

/-- The values of a setting. -/
def Key.Value : Key → Type
  | .glslVersion => String
  | .precision => Precision
  | .packing => Packing
  | .maxTextureSize => UInt32

/-- The value of one of the settings. -/
def get (c : Config) : (key : Key) → key.Value
  | .glslVersion => c.glslVersion
  | .precision => c.precision
  | .packing => c.packing
  | .maxTextureSize => c.maxTextureSize

/-- The settings with another value of one of them. -/
def put (c : Config) : (key : Key) → key.Value → Config
  | .glslVersion, v => { c with glslVersion := v }
  | .precision, v => { c with precision := v }
  | .packing, v => { c with packing := v }
  | .maxTextureSize, v => { c with maxTextureSize := v }

/-- The value that a scalar gives a setting, if it is admissible for it. -/
def Key.read? : (key : Key) → Yaml.Scalar → Option key.Value
  | .glslVersion, s => some s.text
  | .precision, s => Precision.ofQualifier? s.text
  | .packing, s => Packing.ofName? s.text
  | .maxTextureSize, s => s.word?

/-- The scalars that write a value of a setting. Only an integer must not be quoted. -/
def Key.Writes : (key : Key) → Yaml.Scalar → key.Value → Prop
  | .glslVersion, s, v => s.text = v
  | .precision, s, v => s.text = Precision.qualifier v
  | .packing, s, v => s.text = Packing.name v
  | .maxTextureSize, s, v => s.WritesInteger (UInt32.toNat v)

/-- The scalars that are admissible for a setting. -/
def Key.Admits : Key → Yaml.Scalar → Prop
  | .glslVersion, _ => True
  | .precision, s => s.text ∈ ["lowp", "mediump", "highp"]
  | .packing, s => s.text ∈ ["plain", "channel_major"]
  | .maxTextureSize, s => ∃ n < 2 ^ 32, s.WritesInteger n

/-- The settings `c'` are those of `c`, with the value that an entry writes for each setting that
entries name, each once. -/
structure Gives (entries : List Yaml.Entry) (c c' : Config) : Prop where
  distinct : (entries.map (·.1.text)).Nodup
  written : ∀ e ∈ entries, ∃ key : Key, e.1.text = key.name ∧ key.Writes e.2 (c'.get key)
  kept : ∀ key : Key, key.name ∉ entries.map (·.1.text) → c'.get key = c.get key

variable {c c' : Config} {key other : Key} {s : Yaml.Scalar} {v : key.Value}
  {entries entries' : List Yaml.Entry} {given : List Key}

theorem ext_get (h : ∀ key, c.get key = c'.get key) : c = c' := by
  obtain ⟨version, precision, packing, size⟩ := c
  obtain rfl : version = _ := h .glslVersion
  obtain rfl : precision = _ := h .precision
  obtain rfl : packing = _ := h .packing
  obtain rfl : size = _ := h .maxTextureSize
  rfl

@[simp] theorem get_put (c : Config) (key : Key) (v : key.Value) : (c.put key v).get key = v := by
  cases key <;> rfl

theorem get_put_of_ne (c : Config) (v : key.Value) (h : other ≠ key) :
    (c.put key v).get other = c.get other := by
  cases key <;> cases other <;> first | rfl | exact absurd rfl h

theorem Key.ofName?_eq_some_iff {name : String} : ofName? name = some key ↔ name = key.name := by
  constructor
  · intro h
    unfold ofName? at h
    split at h <;> cases h <;> rfl
  · rintro rfl
    cases key <;> rfl

theorem Key.name_inj (h : key.name = other.name) : key = other := by
  have hkey : ofName? key.name = some key := ofName?_eq_some_iff.2 rfl
  rw [h, ofName?_eq_some_iff.2 rfl] at hkey
  exact (Option.some.inj hkey).symm

/-- The value that is read from a scalar is the one that it writes. -/
theorem Key.read?_eq_some_iff : key.read? s = some v ↔ key.Writes s v := by
  cases key with
  | glslVersion => exact Option.some_inj
  | precision => exact Precision.ofQualifier?_eq_some_iff
  | packing => exact Packing.ofName?_eq_some_iff
  | maxTextureSize => exact Yaml.Scalar.word?_eq_some_iff

theorem Key.Writes.unique {w : key.Value} (h : key.Writes s v) (h' : key.Writes s w) : w = v := by
  rw [← read?_eq_some_iff] at h h'
  exact Option.some.inj (h'.symm.trans h)

/-- A scalar is admissible exactly if it writes a value. -/
theorem Key.admits_iff : key.Admits s ↔ ∃ v, key.Writes s v := by
  cases key with
  | glslVersion => exact iff_of_true trivial ⟨s.text, rfl⟩
  | precision => exact Precision.exists_qualifier_iff
  | packing => exact Packing.exists_name_iff
  | maxTextureSize =>
    constructor
    · rintro ⟨n, hn, hwrites⟩
      refine ⟨UInt32.ofNat n, ?_⟩
      show s.WritesInteger (UInt32.ofNat n).toNat
      rwa [UInt32.toNat_ofNat_of_lt' hn]
    · rintro ⟨n, hwrites⟩
      exact ⟨UInt32.toNat n, UInt32.toNat_lt n, hwrites⟩

theorem set?_eq (c : Config) (key : Key) (s : Yaml.Scalar) :
    c.set? key s = (key.read? s).map (c.put key) := by
  cases key <;> rfl

theorem set?_eq_some_iff : c.set? key s = some c' ↔ ∃ v, key.Writes s v ∧ c.put key v = c' := by
  simp only [set?_eq, Option.map_eq_some_iff, Key.read?_eq_some_iff]

theorem applyEntries?_cons_eq_some_iff {e : Yaml.Entry} :
    c.applyEntries? given (e :: entries) = some c' ↔
      ∃ key : Key, e.1.text = key.name ∧ key ∉ given ∧
        ∃ v, key.Writes e.2 v ∧ (c.put key v).applyEntries? (key :: given) entries = some c' := by
  obtain ⟨name, value⟩ := e
  simp only [← Key.ofName?_eq_some_iff]
  rw [applyEntries?]
  cases hkey : Key.ofName? name.text with
  | none => simp
  | some key =>
    simp only [Option.some.injEq, exists_eq_left']
    split
    · rename_i hgiven
      simp [hgiven]
    · rename_i hgiven
      rw [and_iff_right hgiven, Option.bind_eq_some_iff]
      simp only [set?_eq_some_iff]
      constructor
      · rintro ⟨_, ⟨v, hv, rfl⟩, h⟩
        exact ⟨v, hv, h⟩
      · rintro ⟨v, hv, h⟩
        exact ⟨_, ⟨v, hv, rfl⟩, h⟩

theorem gives_nil_iff : Gives [] c c' ↔ c = c' := by
  refine ⟨fun h => ext_get fun key => (h.kept key List.not_mem_nil).symm, ?_⟩
  rintro rfl
  exact ⟨.nil, by simp, fun _ _ => rfl⟩

theorem gives_cons_iff {e : Yaml.Entry} :
    Gives (e :: entries) c c' ↔ e.1.text ∉ entries.map (·.1.text) ∧
      ∃ key : Key, e.1.text = key.name ∧
        ∃ v, key.Writes e.2 v ∧ Gives entries (c.put key v) c' := by
  constructor
  · rintro ⟨hdistinct, hwritten, hkept⟩
    obtain ⟨hfirst, hdistinct⟩ := List.nodup_cons.1 hdistinct
    obtain ⟨⟨key, hkey, hwrites⟩, hwritten⟩ := List.forall_mem_cons.1 hwritten
    refine ⟨hfirst, key, hkey, _, hwrites, hdistinct, hwritten, fun other hother => ?_⟩
    by_cases heq : other = key
    · rw [heq, get_put]
    · rw [get_put_of_ne c _ heq]
      refine hkept other fun hmem => ?_
      rcases List.mem_cons.1 hmem with hname | hmem
      · exact heq (Key.name_inj (hname.trans hkey))
      · exact hother hmem
  · rintro ⟨hfirst, key, hkey, v, hwrites, hdistinct, hwritten, hkept⟩
    have hv : c'.get key = v := by rw [hkept key (hkey ▸ hfirst), get_put]
    refine ⟨List.nodup_cons.2 ⟨hfirst, hdistinct⟩, ?_, fun other hother => ?_⟩
    · exact List.forall_mem_cons.2 ⟨⟨key, hkey, hv ▸ hwrites⟩, hwritten⟩
    · rw [List.map_cons, List.mem_cons, not_or] at hother
      rw [hkept other hother.2, get_put_of_ne]
      rintro rfl
      exact hother.1 hkey.symm

/-- Entries are applied to settings exactly if they give what results, and none of them is for a
setting that was given before. -/
theorem applyEntries?_eq_some_iff :
    c.applyEntries? given entries = some c' ↔
      Gives entries c c' ∧ ∀ key ∈ given, key.name ∉ entries.map (·.1.text) := by
  induction entries generalizing c given with
  | nil => simp [applyEntries?, gives_nil_iff]
  | cons e entries ih =>
    rw [applyEntries?_cons_eq_some_iff, gives_cons_iff]
    simp only [ih, List.forall_mem_cons, List.map_cons]
    constructor
    · rintro ⟨key, hkey, hgiven, v, hwrites, hgives, hfirst, hbefore⟩
      refine ⟨⟨hkey ▸ hfirst, key, hkey, v, hwrites, hgives⟩, fun other hother => ?_⟩
      refine List.not_mem_cons_of_ne_of_not_mem (fun hname => ?_) (hbefore other hother)
      exact hgiven (Key.name_inj (hname.trans hkey) ▸ hother)
    · rintro ⟨⟨hfirst, key, hkey, v, hwrites, hgives⟩, hbefore⟩
      refine ⟨key, hkey, fun hgiven => ?_, v, hwrites, hgives, hkey ▸ hfirst,
        fun other hother => ?_⟩
      · exact List.ne_of_not_mem_cons (hbefore key hgiven) hkey.symm
      · exact List.not_mem_of_not_mem_cons (hbefore other hother)

theorem ofEntries?_eq_some_iff : ofEntries? entries = some c ↔ Gives entries {} c := by
  rw [ofEntries?, applyEntries?_eq_some_iff, and_iff_left]
  exact fun _ h => nomatch h

/-- Keys that differ and are known can be given values that their entries write. -/
theorem exists_gives_iff : (∃ c', Gives entries c c') ↔
    (entries.map (·.1.text)).Nodup ∧
      ∀ e ∈ entries, ∃ key : Key, e.1.text = key.name ∧ key.Admits e.2 := by
  simp only [Key.admits_iff]
  constructor
  · rintro ⟨c', hdistinct, hwritten, -⟩
    refine ⟨hdistinct, fun e he => ?_⟩
    obtain ⟨key, hkey, hwrites⟩ := hwritten e he
    exact ⟨key, hkey, _, hwrites⟩
  · rintro ⟨hdistinct, hwritten⟩
    induction entries generalizing c with
    | nil => exact ⟨c, gives_nil_iff.2 rfl⟩
    | cons e entries ih =>
      obtain ⟨hfirst, hdistinct⟩ := List.nodup_cons.1 hdistinct
      obtain ⟨⟨key, hkey, v, hwrites⟩, hwritten⟩ := List.forall_mem_cons.1 hwritten
      obtain ⟨c', hgives⟩ : ∃ c', Gives entries (c.put key v) c' := ih hdistinct hwritten
      exact ⟨c', gives_cons_iff.2 ⟨hfirst, key, hkey, v, hwrites, hgives⟩⟩

theorem Gives.perm (h : Gives entries c c') (hperm : entries.Perm entries') :
    Gives entries' c c' := by
  have hnames := hperm.map (·.1.text)
  exact ⟨hnames.nodup_iff.1 h.distinct, fun e he => h.written e (hperm.mem_iff.2 he),
    fun key hkey => h.kept key (mt hnames.mem_iff.1 hkey)⟩

theorem ofEntries?_perm (hperm : entries.Perm entries') :
    ofEntries? entries = ofEntries? entries' := by
  ext c
  rw [ofEntries?_eq_some_iff, ofEntries?_eq_some_iff]
  exact ⟨fun h => h.perm hperm, fun h => h.perm hperm.symm⟩

theorem ofText_of_entries {text : String} (h : Yaml.entries? text = some entries) :
    ofText text = match ofEntries? entries with
      | some c => .ok c
      | none => .error .malformed := by
  rw [ofText, h]
  rfl

/-- Reading settings drops nothing. Entries give settings exactly if their keys differ, are known,
and have admissible values. Then a setting that is named has the value that its entry writes and no
other, and each of the rest has its default. In another order the entries give the same. A document
whose mapping has the entries, in their order, holds these settings, and none if they give none. -/
theorem ofText_keeps_entries (entries : List Yaml.Entry) :
    ((∃ c, ofEntries? entries = some c) ↔ (entries.map (·.1.text)).Nodup ∧
      ∀ e ∈ entries, ∃ key : Key, e.1.text = key.name ∧ key.Admits e.2) ∧
    (∀ c, ofEntries? entries = some c → ∀ key : Key,
      (∀ e ∈ entries, e.1.text = key.name → ∀ v, key.Writes e.2 v ↔ v = c.get key) ∧
      (key.name ∉ entries.map (·.1.text) → c.get key = get {} key)) ∧
    (∀ entries', entries.Perm entries' → ofEntries? entries' = ofEntries? entries) ∧
    ∀ text, Yaml.entries? text = some entries → ofText text = match ofEntries? entries with
      | some c => .ok c
      | none => .error .malformed := by
  refine ⟨?_, fun c hc key => ⟨fun e he hname v => ?_, fun hkey => ?_⟩,
    fun entries' hperm => (ofEntries?_perm hperm).symm, fun text => ofText_of_entries⟩
  · simp only [ofEntries?_eq_some_iff]
    exact exists_gives_iff
  · obtain ⟨other, hother, hwrites⟩ := (ofEntries?_eq_some_iff.1 hc).written e he
    obtain rfl := Key.name_inj (hname.symm.trans hother)
    exact ⟨hwrites.unique, fun hv => hv ▸ hwrites⟩
  · exact (ofEntries?_eq_some_iff.1 hc).kept key hkey

def packingEntry : Yaml.Entry := (⟨true, "packing"⟩, ⟨true, "channel_major"⟩)

/-- A limit in base 16. -/
def limitEntry : Yaml.Entry := (⟨true, "max_texture_size"⟩, ⟨true, "0x2000"⟩)

/-- The packing and the limit of a device. -/
def deviceText : String := "packing: channel_major\nmax_texture_size: 0x2000 # texels\n"

/-- The limit and the packing of the same device. -/
def swappedText : String := "---\nmax_texture_size: 0x2000\n\npacking: channel_major\n"

/-- A limit that is given twice. -/
def repeatedText : String := "max_texture_size: 0x2000\nmax_texture_size: 0x2000\n"

/-- Both documents of the device give its packing and its limit, and the default precision. A limit
that is given twice is refused, although the two are the same. -/
theorem ofText_keeps_entries_device :
    (∃ c, ofText deviceText = .ok c ∧ ofText swappedText = .ok c ∧ c.packing = .channelMajor ∧
      c.maxTextureSize = 8192 ∧ c.precision = .high) ∧
    ofText repeatedText = .error .malformed := by
  have hlimit : Key.maxTextureSize.Writes limitEntry.2 (8192 : UInt32) :=
    Yaml.Scalar.word?_eq_some_iff.1 (by decide)
  have hpacking : Key.packing.Writes packingEntry.2 Packing.channelMajor := rfl
  constructor
  · obtain ⟨hsucceeds, hvalues, hperm, hdevice⟩ := ofText_keeps_entries [packingEntry, limitEntry]
    obtain ⟨-, -, -, hswapped⟩ := ofText_keeps_entries [limitEntry, packingEntry]
    have hadmitted : ∀ e ∈ [packingEntry, limitEntry],
        ∃ key : Key, e.1.text = key.name ∧ key.Admits e.2 := by
      simp only [List.forall_mem_cons]
      exact ⟨⟨.packing, rfl, Key.admits_iff.2 ⟨_, hpacking⟩⟩,
        ⟨.maxTextureSize, rfl, Key.admits_iff.2 ⟨_, hlimit⟩⟩, fun _ h => nomatch h⟩
    obtain ⟨c, hc⟩ := hsucceeds.2 ⟨by decide, hadmitted⟩
    refine ⟨c, ?_, ?_, ?_, ?_, ?_⟩
    · rw [hdevice deviceText (by decide), hc]
    · rw [hswapped swappedText (by decide), hperm _ (List.Perm.swap _ _ _), hc]
    · exact (((hvalues c hc .packing).1 packingEntry (by decide) rfl _).1 hpacking).symm
    · exact (((hvalues c hc .maxTextureSize).1 limitEntry (by decide) rfl _).1 hlimit).symm
    · exact (hvalues c hc .precision).2 (by decide)
  · obtain ⟨hsucceeds, -, -, hrepeated⟩ := ofText_keeps_entries [limitEntry, limitEntry]
    rw [hrepeated repeatedText (by decide)]
    cases hc : ofEntries? [limitEntry, limitEntry] with
    | none => rfl
    | some c => exact absurd (hsucceeds.1 ⟨c, hc⟩).1 (by decide)

end Config

end TensorShader
