import GenerationGateway.CreativeFabrica.PollResults
import GenerationGateway.Library.Reordering

/-!
# The status of a session

The parser of a session visits the session, items and iterations, some of them twice, and
joins their statuses. The result depends on what the response holds and not on the order in
which it lists it.
-/

namespace GenerationGateway.CreativeFabrica

open Documents Text SessionScan

/-! ### Normalised statuses -/

theorem normalizeStatus_cases (value : String) :
    normalizeStatus value ∈ ["COMPLETE", "FAILED", "CANCELLED", "PENDING"] ∨
      normalizeStatus value = toUpper (trimSpace value) := by
  unfold normalizeStatus
  dsimp only
  split_ifs <;> simp

theorem normalizeSessionStatus_cases (value : String) :
    normalizeSessionStatus value ∈ ["COMPLETE", "FAILED", "CANCELLED", "PENDING"] ∨
      normalizeSessionStatus value = toUpper (trimSpace value) := by
  unfold normalizeSessionStatus
  dsimp only
  split_ifs
  · simp
  · simp
  · simp
  · exact normalizeStatus_cases value

/-- A status depends on the trimmed text in capitals only. -/
theorem normalizeSessionStatus_congr {value value' : String}
    (h : toUpper (trimSpace value) = toUpper (trimSpace value')) :
    normalizeSessionStatus value = normalizeSessionStatus value' := by
  unfold normalizeSessionStatus normalizeStatus
  rw [h]

/-- The walk normalises statuses that are normalised already. -/
theorem normalizeSessionStatus_idem (value : String) :
    normalizeSessionStatus (normalizeSessionStatus value) = normalizeSessionStatus value := by
  rcases normalizeSessionStatus_cases value with hfixed | hupper
  · revert hfixed
    generalize normalizeSessionStatus value = status
    intro hfixed
    simp only [List.mem_cons, List.not_mem_nil, or_false] at hfixed
    rcases hfixed with rfl | rfl | rfl | rfl <;> decide +kernel
  · apply normalizeSessionStatus_congr
    rw [hupper]
    exact toUpper_trimSpace_idem value

/-! ### The join of statuses -/

/-- A failure outranks everything, a completed part the pending ones. -/
def joined (statuses : List String) : String :=
  if "FAILED" ∈ statuses then "FAILED"
  else if "COMPLETE" ∈ statuses then "COMPLETE"
  else if "PENDING" ∈ statuses then "PENDING"
  else ""

theorem joined_congr {statuses statuses' : List String}
    (h : ∀ status, status ∈ statuses ↔ status ∈ statuses') : joined statuses = joined statuses' := by
  unfold joined
  simp only [h]

theorem setStatus_joined {scan : SessionScan} {statuses : List String} (value : String)
    (h : scan.result.status = joined statuses) :
    (scan.setStatus value).result.status =
      joined (statuses ++ [normalizeSessionStatus value]) := by
  unfold SessionScan.setStatus
  dsimp only
  generalize normalizeSessionStatus value = status
  unfold joined at h ⊢
  simp only [List.mem_append, List.mem_singleton]
  by_cases hfailed : status = "FAILED"
  · simp [hfailed]
  by_cases hcomplete : status = "COMPLETE"
  · rw [if_neg hfailed, if_pos hcomplete]
    by_cases hpast : "FAILED" ∈ statuses
    · simp [h, hpast]
    · have hopen : scan.result.status ≠ "FAILED" := by
        rw [h, if_neg hpast]
        split_ifs <;> decide
      simp [hopen, hpast, hcomplete]
  by_cases hpending : status = "PENDING"
  · rw [if_neg hfailed, if_neg hcomplete, if_pos hpending]
    by_cases hpast : "FAILED" ∈ statuses
    · simp [h, hpast]
    by_cases hdone : "COMPLETE" ∈ statuses
    · simp [h, hpast, hdone, hpending]
    by_cases hwaiting : "PENDING" ∈ statuses <;> simp [h, hpast, hdone, hwaiting, hpending]
  · rw [if_neg hfailed, if_neg hcomplete, if_neg hpending, h]
    simp [Ne.symm hfailed, Ne.symm hcomplete, Ne.symm hpending]

/-! ### What the response holds -/

def mediaKeys : List String := ["mediaItems", "media_items", "items"]

def iterationKeys : List String :=
  ["iterations", "iteration", "sessionIterations", "session_iterations"]

/-- An iteration of the document, at any depth. -/
inductive IterationOf : Document → Fields → Prop
  | self (current : Fields) : IterationOf (.object current) current
  | element {items : List Document} {item : Document} {current : Fields} :
    item ∈ items → IterationOf item current → IterationOf (.array items) current
  | under {above current : Fields} {key : String} :
    key ∈ iterationKeys → IterationOf (above.value key) current → IterationOf (.object above) current

/-- An iteration of the response, or of its session. -/
def IsIteration (data current : Fields) : Prop :=
  IterationOf (data.value "iterations") current ∨
    ∃ session, mapValue data "session" = some session ∧
      IterationOf (session.value "iterations") current

/-- An item of the media, of the response itself or of an iteration. -/
def IsItem (data item : Fields) : Prop :=
  (∃ media, mapValue data "media" = some media ∧
    item ∈ (firstValue media ["items", "mediaItems", "media_items"]).objects) ∨
  item ∈ (firstValue data ["items", "mediaItems", "media_items"]).objects ∨
  ∃ current, IsIteration data current ∧ item ∈ (firstValue current mediaKeys).objects

def itemStatus (item : Fields) : String :=
  normalizeSessionStatus (firstString item ["status", "mediaStatus", "media_status"])

def iterationStatus (current : Fields) : String :=
  normalizeSessionStatus
    (firstString current ["status", "state", "iterationStatus", "iteration_status"])

theorem normalizeSessionStatus_itemStatus (item : Fields) :
    normalizeSessionStatus (itemStatus item) = itemStatus item := normalizeSessionStatus_idem _

theorem normalizeSessionStatus_iterationStatus (current : Fields) :
    normalizeSessionStatus (iterationStatus current) = iterationStatus current :=
  normalizeSessionStatus_idem _

/-- The session, an item or an iteration has the status. -/
def HasStatus (data : Fields) (status : String) : Prop :=
  normalizeSessionStatus (sessionStatus data) = status ∨
    (∃ item, IsItem data item ∧ itemStatus item = status) ∨
    ∃ current, IsIteration data current ∧ iterationStatus current = status

/-- The generated media of an item. -/
def itemOutputs (item : Fields) : List Output :=
  (content item "videoContent" "video_content").toList.map (videoOutput item) ++
    (content item "imageContent" "image_content").toList.map (imageOutput item)

/-- The item did not fail and has generated media under the URL. -/
def Generated (item : Fields) (url : String) : Prop :=
  itemStatus item ≠ "FAILED" ∧ hasPrefix url "http" ∧ ∃ output ∈ itemOutputs item, output.url = url

/-! ### What the scan visits -/

inductive Visit
  | iteration (current : Fields)
  | item (fields : Fields)

namespace Visit

def status : Visit → String
  | iteration current => iterationStatus current
  | item fields => itemStatus fields

def items : Visit → List Fields
  | iteration _ => []
  | item fields => [fields]

/-- What the scan does with an envelope itself. -/
def scanned (scan : SessionScan) : Visit → SessionScan
  | iteration current =>
    let scan := (scan.setStatus (iterationStatus current)).setError current errorKeys
    if iterationStatus current = "FAILED" then scan.setError current ["message"] else scan
  | item fields => scan.appendItem fields

end Visit

def itemVisits (value : Document) : List Visit := value.objects.map .item

theorem collectItems_eq (value : Document) (scan : SessionScan) :
    scan.collectItems value = (itemVisits value).foldl Visit.scanned scan := by
  rw [itemVisits, List.foldl_map]
  rfl

mutual

def iterationVisits : Document → List Visit
  | .object current =>
    .iteration current :: (itemVisits (firstValue current mediaKeys) ++
      visitsUnder "iterations" current ++ visitsUnder "iteration" current ++
      visitsUnder "sessionIterations" current ++ visitsUnder "session_iterations" current)
  | .array items => visitsEach items
  | _ => []

def visitsUnder (key : String) : Fields → List Visit
  | [] => []
  | (name, child) :: rest => if key = name then iterationVisits child else visitsUnder key rest

def visitsEach : List Document → List Visit
  | [] => []
  | item :: rest => iterationVisits item ++ visitsEach rest

end

mutual

theorem walkIterations_eq : ∀ (value : Document) (scan : SessionScan),
    walkIterations value scan = (iterationVisits value).foldl Visit.scanned scan
  | .object current, scan => by
    rw [walkIterations, iterationVisits, List.foldl_cons]
    simp only [List.foldl_append, ← walkUnder_eq, ← collectItems_eq]
    rfl
  | .array items, scan => by
    rw [walkIterations, iterationVisits]
    exact walkEach_eq items scan
  | .null, _ | .bool _, _ | .number _, _ | .string _, _ => rfl

theorem walkUnder_eq (key : String) : ∀ (fields : Fields) (scan : SessionScan),
    walkUnder key fields scan = (visitsUnder key fields).foldl Visit.scanned scan
  | [], _ => rfl
  | (name, child) :: rest, scan => by
    rw [walkUnder, visitsUnder]
    by_cases hname : key = name
    · rw [if_pos hname, if_pos hname]
      exact walkIterations_eq child scan
    · rw [if_neg hname, if_neg hname]
      exact walkUnder_eq key rest scan

theorem walkEach_eq : ∀ (items : List Document) (scan : SessionScan),
    walkEach items scan = (visitsEach items).foldl Visit.scanned scan
  | [], _ => rfl
  | item :: rest, scan => by
    rw [walkEach, visitsEach, List.foldl_append, ← walkIterations_eq item scan]
    exact walkEach_eq rest _

end

/-- Everything that the scan of a response visits after the session, in its order. -/
def sessionVisits (data : Fields) : List Visit :=
  (mapValue data "media").elim []
      (fun media => itemVisits (firstValue media ["items", "mediaItems", "media_items"])) ++
    itemVisits (firstValue data ["items", "mediaItems", "media_items"]) ++
    (data.value "iterations").objects.flatMap
      (fun iteration => itemVisits (firstValue iteration mediaKeys)) ++
    iterationVisits (data.value "iterations") ++
    (mapValue data "session").elim [] fun session => iterationVisits (session.value "iterations")

/-- The scan after the session itself. -/
def sessionStart (data : Fields) : SessionScan :=
  ((⟨⟨"", 0, [], ""⟩, []⟩ : SessionScan).setStatus (sessionStatus data)).setError (sessionOf data)
    errorKeys

theorem parseSessionPollResult_eq (data : Fields) :
    parseSessionPollResult data =
      ((sessionVisits data).foldl Visit.scanned (sessionStart data)).result.finished := by
  have helim (found : Option Fields) (visits : Fields → List Visit) (scan : SessionScan) :
      (found.elim [] visits).foldl Visit.scanned scan =
        found.elim scan fun fields => (visits fields).foldl Visit.scanned scan := by
    cases found <;> rfl
  have hflat (iterations : List Fields) (scan : SessionScan) :
      (iterations.flatMap fun iteration => itemVisits (firstValue iteration mediaKeys)).foldl
        Visit.scanned scan = iterations.foldl (fun scan iteration =>
          scan.collectItems (firstValue iteration mediaKeys)) scan := by
    simp only [List.foldl_flatMap, collectItems_eq]
  unfold sessionVisits
  simp only [List.foldl_append, helim, hflat, ← collectItems_eq, ← walkIterations_eq]
  rfl

/-! #### The visits are the items and iterations of the response -/

theorem item_of_mem_itemVisits {value : Document} {item : Fields} :
    Visit.item item ∈ itemVisits value ↔ item ∈ value.objects := by
  simp [itemVisits]

theorem iteration_notMem_itemVisits {value : Document} {current : Fields} :
    Visit.iteration current ∉ itemVisits value := by
  simp [itemVisits]

theorem visitsUnder_eq (key : String) (fields : Fields) :
    visitsUnder key fields = iterationVisits (fields.value key) := by
  induction fields with
  | nil => rfl
  | cons field rest ih =>
    obtain ⟨name, child⟩ := field
    rw [visitsUnder, Fields.value, List.lookup_cons]
    by_cases hname : key = name
    · rw [if_pos hname, beq_iff_eq.mpr hname]
      rfl
    · rw [if_neg hname, beq_eq_false_iff_ne.mpr hname]
      exact ih

theorem mem_visitsEach {visit : Visit} {items : List Document} :
    visit ∈ visitsEach items ↔ ∃ item ∈ items, visit ∈ iterationVisits item := by
  induction items with
  | nil => simp [visitsEach]
  | cons item rest ih => simp [visitsEach, ih]

/-- A visit of an object is its own, one of its items or one under it. -/
theorem mem_iterationVisits_object {visit : Visit} {current : Fields} :
    visit ∈ iterationVisits (.object current) ↔
      visit = .iteration current ∨ visit ∈ itemVisits (firstValue current mediaKeys) ∨
        ∃ key ∈ iterationKeys, visit ∈ iterationVisits (current.value key) := by
  rw [iterationVisits]
  simp [visitsUnder_eq, iterationKeys]

/-- The walk visits every iteration, with its items. -/
theorem mem_iterationVisits_of {value : Document} {current : Fields}
    (h : IterationOf value current) :
    .iteration current ∈ iterationVisits value ∧
      ∀ item ∈ (firstValue current mediaKeys).objects, .item item ∈ iterationVisits value := by
  induction h with
  | self current =>
    constructor
    · exact mem_iterationVisits_object.mpr (.inl rfl)
    · intro item hitem
      exact mem_iterationVisits_object.mpr (.inr (.inl (item_of_mem_itemVisits.mpr hitem)))
  | element hitem _ ih =>
    rw [iterationVisits]
    constructor
    · exact mem_visitsEach.mpr ⟨_, hitem, ih.1⟩
    · intro item hmem
      exact mem_visitsEach.mpr ⟨_, hitem, ih.2 item hmem⟩
  | under hkey _ ih =>
    constructor
    · exact mem_iterationVisits_object.mpr (.inr (.inr ⟨_, hkey, ih.1⟩))
    · intro item hitem
      exact mem_iterationVisits_object.mpr (.inr (.inr ⟨_, hkey, ih.2 item hitem⟩))

/-- The envelope of a visit is an iteration, or an item of one. -/
def Visit.From (value : Document) : Visit → Prop
  | iteration current => IterationOf value current
  | item fields =>
    ∃ current, IterationOf value current ∧ fields ∈ (firstValue current mediaKeys).objects

theorem Visit.From.mono {value value' : Document} {visit : Visit}
    (h : ∀ current, IterationOf value current → IterationOf value' current)
    (hfrom : visit.From value) : visit.From value' := by
  cases visit with
  | iteration current => exact h current hfrom
  | item fields =>
    obtain ⟨current, hcurrent, hitem⟩ := hfrom
    exact ⟨current, h current hcurrent, hitem⟩

mutual

theorem from_of_mem_iterationVisits {visit : Visit} : ∀ value : Document,
    visit ∈ iterationVisits value → visit.From value
  | .object current, h => by
    rw [iterationVisits] at h
    simp only [List.mem_cons, List.mem_append] at h
    have hunder (key : String) (hkey : key ∈ iterationKeys)
        (hmem : visit ∈ visitsUnder key current) : visit.From (.object current) :=
      (from_of_mem_visitsUnder key current hmem).mono fun _ hiteration => .under hkey hiteration
    rcases h with rfl | (((hitems | hkey) | hkey) | hkey) | hkey
    · exact .self current
    · obtain ⟨item, hitem, rfl⟩ := List.mem_map.mp hitems
      exact ⟨current, .self current, hitem⟩
    · exact hunder _ (by decide) hkey
    · exact hunder _ (by decide) hkey
    · exact hunder _ (by decide) hkey
    · exact hunder _ (by decide) hkey
  | .array items, h => by
    rw [iterationVisits] at h
    exact from_of_mem_visitsEach items h
  | .null, h | .bool _, h | .number _, h | .string _, h => by simp [iterationVisits] at h

theorem from_of_mem_visitsUnder {visit : Visit} (key : String) : ∀ fields : Fields,
    visit ∈ visitsUnder key fields → visit.From (fields.value key)
  | [], h => by simp [visitsUnder] at h
  | (name, child) :: rest, h => by
    rw [visitsUnder] at h
    rw [Fields.value, List.lookup_cons]
    by_cases hname : key = name
    · rw [if_pos hname] at h
      rw [beq_iff_eq.mpr hname]
      exact from_of_mem_iterationVisits child h
    · rw [if_neg hname] at h
      rw [beq_eq_false_iff_ne.mpr hname]
      exact from_of_mem_visitsUnder key rest h

theorem from_of_mem_visitsEach {visit : Visit} : ∀ items : List Document,
    visit ∈ visitsEach items → visit.From (.array items)
  | [], h => by simp [visitsEach] at h
  | item :: rest, h => by
    rw [visitsEach, List.mem_append] at h
    rcases h with hitem | hrest
    · exact (from_of_mem_iterationVisits item hitem).mono fun _ hiteration =>
        .element List.mem_cons_self hiteration
    · refine (from_of_mem_visitsEach rest hrest).mono fun _ hiteration => ?_
      cases hiteration with
      | element hmem hunder => exact .element (List.mem_cons_of_mem _ hmem) hunder

end

theorem mem_sessionVisits {data : Fields} {visit : Visit} :
    visit ∈ sessionVisits data ↔
      (∃ media, mapValue data "media" = some media ∧
        visit ∈ itemVisits (firstValue media ["items", "mediaItems", "media_items"])) ∨
      visit ∈ itemVisits (firstValue data ["items", "mediaItems", "media_items"]) ∨
      (∃ iteration ∈ (data.value "iterations").objects,
        visit ∈ itemVisits (firstValue iteration mediaKeys)) ∨
      visit ∈ iterationVisits (data.value "iterations") ∨
      ∃ session, mapValue data "session" = some session ∧
        visit ∈ iterationVisits (session.value "iterations") := by
  have helim (found : Option Fields) (visits : Fields → List Visit) :
      visit ∈ found.elim [] visits ↔ ∃ fields, found = some fields ∧ visit ∈ visits fields := by
    cases found <;> simp
  unfold sessionVisits
  simp only [List.mem_append, List.mem_flatMap, helim, or_assoc]

theorem iterationOf_of_mem_objects {value : Document} {iteration : Fields}
    (h : iteration ∈ value.objects) : IterationOf value iteration := by
  obtain ⟨item, hitem, hobject⟩ := List.mem_filterMap.mp h
  cases value with
  | array items =>
    cases item with
    | object fields =>
      obtain rfl := Option.some.inj hobject
      exact .element hitem (.self fields)
    | _ => cases hobject
  | _ => cases hitem

theorem iteration_mem_sessionVisits {data current : Fields} :
    .iteration current ∈ sessionVisits data ↔ IsIteration data current := by
  rw [mem_sessionVisits]
  constructor
  · rintro (⟨_, _, hitem⟩ | hitem | ⟨_, _, hitem⟩ | hiteration | ⟨session, hsession, hiteration⟩)
    · exact absurd hitem iteration_notMem_itemVisits
    · exact absurd hitem iteration_notMem_itemVisits
    · exact absurd hitem iteration_notMem_itemVisits
    · exact .inl (from_of_mem_iterationVisits _ hiteration)
    · exact .inr ⟨session, hsession, from_of_mem_iterationVisits _ hiteration⟩
  · rintro (hiteration | ⟨session, hsession, hiteration⟩)
    · exact .inr (.inr (.inr (.inl (mem_iterationVisits_of hiteration).1)))
    · exact .inr (.inr (.inr (.inr ⟨session, hsession, (mem_iterationVisits_of hiteration).1⟩)))

theorem item_mem_sessionVisits {data item : Fields} :
    .item item ∈ sessionVisits data ↔ IsItem data item := by
  rw [mem_sessionVisits]
  constructor
  · rintro (⟨media, hmedia, hitem⟩ | hitem | ⟨iteration, hiteration, hitem⟩ | hwalk |
      ⟨session, hsession, hwalk⟩)
    · exact .inl ⟨media, hmedia, item_of_mem_itemVisits.mp hitem⟩
    · exact .inr (.inl (item_of_mem_itemVisits.mp hitem))
    · exact .inr (.inr ⟨iteration, .inl (iterationOf_of_mem_objects hiteration),
        item_of_mem_itemVisits.mp hitem⟩)
    · obtain ⟨current, hcurrent, hitem⟩ := from_of_mem_iterationVisits _ hwalk
      exact .inr (.inr ⟨current, .inl hcurrent, hitem⟩)
    · obtain ⟨current, hcurrent, hitem⟩ := from_of_mem_iterationVisits _ hwalk
      exact .inr (.inr ⟨current, .inr ⟨session, hsession, hcurrent⟩, hitem⟩)
  · rintro (⟨media, hmedia, hitem⟩ | hitem | ⟨current, hcurrent | ⟨session, hsession, hcurrent⟩,
      hitem⟩)
    · exact .inl ⟨media, hmedia, item_of_mem_itemVisits.mpr hitem⟩
    · exact .inr (.inl (item_of_mem_itemVisits.mpr hitem))
    · exact .inr (.inr (.inr (.inl ((mem_iterationVisits_of hcurrent).2 item hitem))))
    · exact .inr (.inr (.inr (.inr
        ⟨session, hsession, (mem_iterationVisits_of hcurrent).2 item hitem⟩)))

/-! ### The invariant of the scan -/

namespace SessionScan

/-- The URLs of the outputs so far. -/
def urls (scan : SessionScan) : List String := scan.result.outputs.map Output.url

@[simp] theorem urls_setStatus (scan : SessionScan) (value : String) :
    (scan.setStatus value).urls = scan.urls := by
  unfold SessionScan.setStatus
  dsimp only
  split_ifs <;> rfl

@[simp] theorem seen_setStatus (scan : SessionScan) (value : String) :
    (scan.setStatus value).seen = scan.seen := by
  unfold SessionScan.setStatus
  dsimp only
  split_ifs <;> rfl

@[simp] theorem urls_setError (scan : SessionScan) (value : Fields) (keys : List String) :
    (scan.setError value keys).urls = scan.urls := by
  unfold SessionScan.setError
  split_ifs <;> rfl

@[simp] theorem seen_setError (scan : SessionScan) (value : Fields) (keys : List String) :
    (scan.setError value keys).seen = scan.seen := by
  unfold SessionScan.setError
  split_ifs <;> rfl

@[simp] theorem status_setError (scan : SessionScan) (value : Fields) (keys : List String) :
    (scan.setError value keys).result.status = scan.result.status := by
  unfold SessionScan.setError
  split_ifs <;> rfl

@[simp] theorem status_addOutput (scan : SessionScan) (output : Output) :
    (scan.addOutput output).result.status = scan.result.status := by
  unfold SessionScan.addOutput
  split_ifs <;> rfl

/-- The outputs are those of the URLs that `wanted` tells, each once. -/
structure Collected (scan : SessionScan) (wanted : String → Prop) : Prop where
  seen : ∀ url, url ∈ scan.seen ↔ url ∈ scan.urls
  nodup : scan.urls.Nodup
  mem : ∀ url, url ∈ scan.urls ↔ wanted url

namespace Collected

variable {scan : SessionScan} {wanted : String → Prop}

/-- Only the seen URLs and those of the outputs matter. -/
theorem transfer {scan' : SessionScan} (h : scan.Collected wanted) (hseen : scan'.seen = scan.seen)
    (hurls : scan'.urls = scan.urls) : scan'.Collected wanted := by
  constructor
  · rw [hseen, hurls]
    exact h.seen
  · rw [hurls]
    exact h.nodup
  · rw [hurls]
    exact h.mem

theorem congr {wanted' : String → Prop} (h : scan.Collected wanted)
    (heq : ∀ url, wanted url ↔ wanted' url) : scan.Collected wanted' :=
  ⟨h.seen, h.nodup, fun url => (h.mem url).trans (heq url)⟩

theorem addOutput (h : scan.Collected wanted) (output : Output) :
    (scan.addOutput output).Collected
      fun url => wanted url ∨ hasPrefix url "http" ∧ output.url = url := by
  unfold SessionScan.addOutput
  split_ifs with hnew
  · have hfresh : output.url ∉ scan.urls := fun hmem => hnew.2 ((h.seen _).mpr hmem)
    have hurls : urls ⟨{ scan.result with outputs := scan.result.outputs ++ [output] },
        output.url :: scan.seen⟩ = scan.urls ++ [output.url] := by
      simp [urls]
    constructor
    · intro url
      rw [hurls]
      simp [h.seen, or_comm]
    · rw [hurls]
      exact List.nodup_append.mpr ⟨h.nodup, List.nodup_singleton _,
        fun a ha b hb hab => hfresh (List.mem_singleton.mp hb ▸ hab ▸ ha)⟩
    · intro url
      rw [hurls, List.mem_append, h.mem, List.mem_singleton]
      constructor
      · rintro (hwanted | rfl)
        · exact .inl hwanted
        · exact .inr ⟨hnew.1, rfl⟩
      · rintro (hwanted | ⟨-, rfl⟩)
        · exact .inl hwanted
        · exact .inr rfl
  · refine h.congr fun url => ?_
    constructor
    · exact .inl
    · rintro (hwanted | ⟨hhttp, rfl⟩)
      · exact hwanted
      · by_contra hnot
        refine hnew ⟨hhttp, fun hseen => hnot ((h.mem _).mp ((h.seen _).mp hseen))⟩

/-- The media under one of the two kinds of content. -/
theorem elim (h : scan.Collected wanted) (found : Option Fields) (output : Fields → Output) :
    (found.elim scan fun media => scan.addOutput (output media)).Collected fun url =>
      wanted url ∨ hasPrefix url "http" ∧ ∃ out ∈ found.toList.map output, out.url = url := by
  cases found with
  | none => exact h.congr fun url => by simp
  | some media => exact (h.addOutput (output media)).congr fun url => by simp

end Collected

/-- The scan after a failure. -/
def failed (scan : SessionScan) : SessionScan :=
  { scan with result := { scan.result with status := "FAILED" } }

@[simp] theorem urls_failed (scan : SessionScan) : scan.failed.urls = scan.urls := rfl

@[simp] theorem seen_failed (scan : SessionScan) : scan.failed.seen = scan.seen := rfl

@[simp] theorem status_failed (scan : SessionScan) : scan.failed.result.status = "FAILED" := rfl

theorem appendItem_failed {item : Fields} (scan : SessionScan) (h : itemStatus item = "FAILED") :
    scan.appendItem item =
      (scan.failed.setError item errorKeys).setError item ["message"] := by
  unfold itemStatus at h
  unfold SessionScan.appendItem failed
  dsimp only
  rw [if_pos h]

/-- The scan with the media of an item. -/
def addMedia (scan : SessionScan) (item : Fields) : SessionScan :=
  let scan := (content item "videoContent" "video_content").elim scan fun video =>
    scan.addOutput (videoOutput item video)
  (content item "imageContent" "image_content").elim scan fun image =>
    scan.addOutput (imageOutput item image)

theorem appendItem_live {item : Fields} (scan : SessionScan) (h : itemStatus item ≠ "FAILED") :
    scan.appendItem item = (scan.addMedia item).setStatus (itemStatus item) := by
  unfold itemStatus at h ⊢
  unfold SessionScan.appendItem addMedia
  dsimp only
  rw [if_neg h]

theorem status_addMedia (scan : SessionScan) (item : Fields) :
    (scan.addMedia item).result.status = scan.result.status := by
  unfold addMedia
  cases content item "videoContent" "video_content" <;>
    cases content item "imageContent" "image_content" <;> simp

/-- An item that did not fail adds its media. -/
theorem Collected.appendItem {scan : SessionScan} {wanted : String → Prop}
    (h : scan.Collected wanted) (item : Fields) :
    (scan.appendItem item).Collected fun url => wanted url ∨ Generated item url := by
  by_cases hfailed : itemStatus item = "FAILED"
  · rw [appendItem_failed scan hfailed]
    refine (h.transfer ?_ ?_).congr fun url => ?_
    · simp
    · simp
    · simp [Generated, hfailed]
  · rw [appendItem_live scan hfailed]
    have hvideo := h.elim (content item "videoContent" "video_content") (videoOutput item)
    have himage := hvideo.elim (content item "imageContent" "image_content") (imageOutput item)
    refine (himage.transfer ?_ ?_).congr fun url => ?_
    · simp [addMedia]
    · simp [addMedia]
    · constructor
      · rintro ((hwanted | ⟨hhttp, output, hmem, hurl⟩) | ⟨hhttp, output, hmem, hurl⟩)
        · exact .inl hwanted
        · exact .inr ⟨hfailed, hhttp, output, List.mem_append_left _ hmem, hurl⟩
        · exact .inr ⟨hfailed, hhttp, output, List.mem_append_right _ hmem, hurl⟩
      · rintro (hwanted | ⟨-, hhttp, output, hmem, hurl⟩)
        · exact .inl (.inl hwanted)
        · rcases List.mem_append.mp hmem with hvideo | himage
          · exact .inl (.inr ⟨hhttp, output, hvideo, hurl⟩)
          · exact .inr ⟨hhttp, output, himage, hurl⟩

theorem status_appendItem {scan : SessionScan} {statuses : List String}
    (h : scan.result.status = joined statuses) (item : Fields) :
    (scan.appendItem item).result.status = joined (statuses ++ [itemStatus item]) := by
  by_cases hfailed : itemStatus item = "FAILED"
  · rw [appendItem_failed scan hfailed]
    simp [joined, hfailed]
  · rw [appendItem_live scan hfailed]
    have hset := setStatus_joined (itemStatus item) ((status_addMedia scan item).trans h)
    rwa [normalizeSessionStatus_itemStatus] at hset

end SessionScan

namespace Visit

theorem scanned_status {scan : SessionScan} {statuses : List String} (visit : Visit)
    (h : scan.result.status = joined statuses) :
    (scanned scan visit).result.status = joined (statuses ++ [visit.status]) := by
  cases visit with
  | item fields =>
    have hitem := status_appendItem h fields
    simpa only [scanned, status] using hitem
  | iteration current =>
    have hset := setStatus_joined (iterationStatus current) h
    rw [normalizeSessionStatus_iterationStatus] at hset
    simp only [scanned, status]
    split_ifs
    · simpa only [status_setError] using hset
    · simpa only [status_setError] using hset

theorem scanned_collected {scan : SessionScan} {wanted : String → Prop} (visit : Visit)
    (h : scan.Collected wanted) :
    (scanned scan visit).Collected fun url => wanted url ∨ ∃ item ∈ visit.items, Generated item url := by
  cases visit with
  | item fields =>
    have hitem := h.appendItem fields
    simpa only [scanned, items, List.mem_singleton, exists_eq_left] using hitem
  | iteration current =>
    refine (h.transfer ?_ ?_).congr fun url => by simp [items]
    all_goals
      unfold scanned
      dsimp only
      split_ifs <;> simp

/-- The scan of all visits joins their statuses and collects the media of their items. -/
theorem foldl_scanned {statuses : List String} {wanted : String → Prop} (visits : List Visit)
    (scan : SessionScan) (hstatus : scan.result.status = joined statuses)
    (hwanted : scan.Collected wanted) :
    (visits.foldl scanned scan).result.status = joined (statuses ++ visits.map status) ∧
      (visits.foldl scanned scan).Collected fun url =>
        wanted url ∨ ∃ item, .item item ∈ visits ∧ Generated item url := by
  induction visits generalizing scan statuses wanted with
  | nil => exact ⟨by simpa using hstatus, hwanted.congr fun url => by simp⟩
  | cons visit rest ih =>
    obtain ⟨hjoined, hcollected⟩ := ih (scanned scan visit) (scanned_status visit hstatus)
      (scanned_collected visit hwanted)
    constructor
    · simpa using hjoined
    · refine hcollected.congr fun url => ?_
      cases visit with
      | item fields => simp [items, or_and_right, exists_or, or_assoc]
      | iteration current => simp [items]

end Visit

/-! ### The result of a scan -/

/-- The result joins the statuses of the response, and its outputs are the media of the items
that did not fail. -/
structure SessionJoin (data : Fields) (result : PollResult) : Prop where
  failed : HasStatus data "FAILED" → result.status = "FAILED"
  complete : ¬HasStatus data "FAILED" → HasStatus data "COMPLETE" → result.status = "COMPLETE"
  pending : ¬HasStatus data "FAILED" → ¬HasStatus data "COMPLETE" → HasStatus data "PENDING" →
    result.status = "PENDING"
  otherwise : ¬HasStatus data "FAILED" → ¬HasStatus data "COMPLETE" → ¬HasStatus data "PENDING" →
    result.status = if result.outputs = [] then "" else "COMPLETE"
  urls : ∀ url, url ∈ result.outputs.map Output.url ↔ ∃ item, IsItem data item ∧ Generated item url
  once : (result.outputs.map Output.url).Nodup

/-- The statuses that the scan joins. -/
def visitedStatuses (data : Fields) : List String :=
  normalizeSessionStatus (sessionStatus data) :: (sessionVisits data).map Visit.status

theorem mem_visitedStatuses {data : Fields} {status : String} :
    status ∈ visitedStatuses data ↔ HasStatus data status := by
  rw [visitedStatuses, List.mem_cons, List.mem_map, HasStatus, eq_comm]
  refine or_congr Iff.rfl ?_
  constructor
  · rintro ⟨visit, hvisit, hstatus⟩
    cases visit with
    | item fields => exact .inl ⟨fields, item_mem_sessionVisits.mp hvisit, hstatus⟩
    | iteration current => exact .inr ⟨current, iteration_mem_sessionVisits.mp hvisit, hstatus⟩
  · rintro (⟨item, hitem, hstatus⟩ | ⟨current, hcurrent, hstatus⟩)
    · exact ⟨.item item, item_mem_sessionVisits.mpr hitem, hstatus⟩
    · exact ⟨.iteration current, iteration_mem_sessionVisits.mpr hcurrent, hstatus⟩

/-- The scan of a response before it is finished. -/
theorem sessionScan_spec (data : Fields) :
    ((sessionVisits data).foldl Visit.scanned (sessionStart data)).result.status =
        joined (visitedStatuses data) ∧
      ((sessionVisits data).foldl Visit.scanned (sessionStart data)).Collected fun url =>
        ∃ item, IsItem data item ∧ Generated item url := by
  have hstatus : (sessionStart data).result.status =
      joined [normalizeSessionStatus (sessionStatus data)] := by
    rw [sessionStart, status_setError]
    exact @setStatus_joined _ [] _ rfl
  have hempty : (sessionStart data).Collected fun _ => False := by
    have hseen : (sessionStart data).seen = [] := by simp [sessionStart]
    have hurls : (sessionStart data).urls = [] := by
      simp only [sessionStart, urls_setError, urls_setStatus]
      rfl
    constructor
    · simp [hseen, hurls]
    · simp [hurls]
    · simp [hurls]
  obtain ⟨hjoined, hcollected⟩ := Visit.foldl_scanned (sessionVisits data) _ hstatus hempty
  refine ⟨hjoined, hcollected.congr fun url => ?_⟩
  simp [item_mem_sessionVisits]

theorem joined_eq_empty {statuses : List String} (hfailed : "FAILED" ∉ statuses)
    (hcomplete : "COMPLETE" ∉ statuses) (hpending : "PENDING" ∉ statuses) : joined statuses = "" := by
  rw [joined, if_neg hfailed, if_neg hcomplete, if_neg hpending]

theorem sessionJoin (data : Fields) : SessionJoin data (parseSessionPollResult data) := by
  obtain ⟨hstatus, hcollected⟩ := sessionScan_spec data
  rw [parseSessionPollResult_eq]
  generalize (sessionVisits data).foldl Visit.scanned (sessionStart data) = scan
    at hstatus hcollected
  have hkeeps (hne : joined (visitedStatuses data) ≠ "") :
      scan.result.finished.status = joined (visitedStatuses data) := by
    rw [finished_status (by rwa [hstatus]), hstatus]
  constructor
  · intro hfailed
    have hjoined : joined (visitedStatuses data) = "FAILED" := by
      rw [joined, if_pos (mem_visitedStatuses.mpr hfailed)]
    rw [hkeeps (by rw [hjoined]; decide), hjoined]
  · intro hfailed hcomplete
    have hjoined : joined (visitedStatuses data) = "COMPLETE" := by
      rw [joined, if_neg (mt mem_visitedStatuses.mp hfailed),
        if_pos (mem_visitedStatuses.mpr hcomplete)]
    rw [hkeeps (by rw [hjoined]; decide), hjoined]
  · intro hfailed hcomplete hpending
    have hjoined : joined (visitedStatuses data) = "PENDING" := by
      rw [joined, if_neg (mt mem_visitedStatuses.mp hfailed),
        if_neg (mt mem_visitedStatuses.mp hcomplete), if_pos (mem_visitedStatuses.mpr hpending)]
    rw [hkeeps (by rw [hjoined]; decide), hjoined]
  · intro hfailed hcomplete hpending
    have hjoined := joined_eq_empty (mt mem_visitedStatuses.mp hfailed)
      (mt mem_visitedStatuses.mp hcomplete) (mt mem_visitedStatuses.mp hpending)
    rw [finished_outputs]
    rw [hjoined] at hstatus
    unfold PollResult.finished
    by_cases houtputs : scan.result.outputs = [] <;> simp [hstatus, houtputs]
  · intro url
    rw [finished_outputs]
    exact hcollected.mem url
  · rw [finished_outputs]
    exact hcollected.nodup

/-! ### Responses in another order -/

section Reordering

variable {data data' : Fields}

theorem similar_firstValue (h : SimilarFields data data') (keys : List String) :
    Similar (firstValue data keys) (firstValue data' keys) := by
  unfold firstValue
  induction keys with
  | nil => exact .refl _
  | cons key rest ih =>
    have hlookup := h.lookup key
    rw [List.findSome?_cons, List.findSome?_cons]
    generalize data.lookup key = found, data'.lookup key = found' at hlookup ⊢
    cases hlookup with
    | none => exact ih
    | some hvalue => exact hvalue

theorem IterationOf.similar {value value' : Document} {current : Fields}
    (hiteration : IterationOf value current) (h : Similar value value') :
    ∃ current', IterationOf value' current' ∧ SimilarFields current current' := by
  induction hiteration generalizing value' with
  | self current =>
    obtain ⟨current', hobject, hcurrent⟩ := exists_of_rel h.asObject rfl
    cases value' with
    | object fields =>
      obtain rfl := Option.some.inj hobject
      exact ⟨fields, .self fields, hcurrent⟩
    | _ => cases hobject
  | @element items item current hitem _ ih =>
    obtain ⟨item', hitem', hsimilar⟩ := h.mem_items hitem
    obtain ⟨current', hcurrent', hfields⟩ := ih hsimilar
    cases value' with
    | array items' => exact ⟨current', .element hitem' hcurrent', hfields⟩
    | _ => cases hitem'
  | @under above current key hkey _ ih =>
    obtain ⟨above', hobject, habove⟩ := exists_of_rel h.asObject rfl
    obtain ⟨current', hcurrent', hfields⟩ := ih (habove.value key)
    cases value' with
    | object fields =>
      obtain rfl := Option.some.inj hobject
      exact ⟨current', .under hkey hcurrent', hfields⟩
    | _ => cases hobject

theorem IsIteration.similar {current : Fields} (hiteration : IsIteration data current)
    (h : SimilarFields data data') :
    ∃ current', IsIteration data' current' ∧ SimilarFields current current' := by
  rcases hiteration with hown | ⟨session, hsession, hunder⟩
  · obtain ⟨current', hcurrent', hfields⟩ := hown.similar (h.value "iterations")
    exact ⟨current', .inl hcurrent', hfields⟩
  · obtain ⟨session', hsession', hsimilar⟩ := exists_of_rel (h.mapValue "session") hsession
    obtain ⟨current', hcurrent', hfields⟩ := hunder.similar (hsimilar.value "iterations")
    exact ⟨current', .inr ⟨session', hsession', hcurrent'⟩, hfields⟩

theorem IsItem.similar {item : Fields} (hitem : IsItem data item) (h : SimilarFields data data') :
    ∃ item', IsItem data' item' ∧ SimilarFields item item' := by
  rcases hitem with ⟨media, hmedia, hmem⟩ | hmem | ⟨current, hcurrent, hmem⟩
  · obtain ⟨media', hmedia', hsimilar⟩ := exists_of_rel (h.mapValue "media") hmedia
    obtain ⟨item', hmem', hfields⟩ := (similar_firstValue hsimilar _).mem_objects hmem
    exact ⟨item', .inl ⟨media', hmedia', hmem'⟩, hfields⟩
  · obtain ⟨item', hmem', hfields⟩ := (similar_firstValue h _).mem_objects hmem
    exact ⟨item', .inr (.inl hmem'), hfields⟩
  · obtain ⟨current', hcurrent', hsimilar⟩ := hcurrent.similar h
    obtain ⟨item', hmem', hfields⟩ := (similar_firstValue hsimilar _).mem_objects hmem
    exact ⟨item', .inr (.inr ⟨current', hcurrent', hmem'⟩), hfields⟩

theorem itemStatus_similar (h : SimilarFields data data') : itemStatus data = itemStatus data' := by
  rw [itemStatus, itemStatus, h.firstString_eq]

theorem iterationStatus_similar (h : SimilarFields data data') :
    iterationStatus data = iterationStatus data' := by
  rw [iterationStatus, iterationStatus, h.firstString_eq]

theorem sessionStatus_similar (h : SimilarFields data data') :
    sessionStatus data = sessionStatus data' := by
  have hsession := h.mapValue "session"
  unfold sessionStatus sessionOf
  generalize mapValue data "session" = found, mapValue data' "session" = found' at hsession ⊢
  cases hsession with
  | none => exact h.firstString_eq _
  | some hfields => exact hfields.firstString_eq _

theorem HasStatus.similar {status : String} (hstatus : HasStatus data status)
    (h : SimilarFields data data') : HasStatus data' status := by
  rcases hstatus with hsession | ⟨item, hitem, hown⟩ | ⟨current, hcurrent, hown⟩
  · rw [sessionStatus_similar h] at hsession
    exact .inl hsession
  · obtain ⟨item', hitem', hfields⟩ := hitem.similar h
    rw [itemStatus_similar hfields] at hown
    exact .inr (.inl ⟨item', hitem', hown⟩)
  · obtain ⟨current', hcurrent', hfields⟩ := hcurrent.similar h
    rw [iterationStatus_similar hfields] at hown
    exact .inr (.inr ⟨current', hcurrent', hown⟩)

theorem content_similar (h : SimilarFields data data') (key key' : String) :
    Option.Rel SimilarFields (content data key key') (content data' key key') := by
  have hfirst := h.mapValue key
  have hsecond := h.mapValue key'
  unfold content
  generalize mapValue data key = found, mapValue data' key = found' at hfirst ⊢
  cases hfirst with
  | none => exact hsecond
  | some hfields => exact .some hfields

theorem itemOutputs_similar (h : SimilarFields data data') {output : Output}
    (houtput : output ∈ itemOutputs data) : ∃ output' ∈ itemOutputs data', output'.url = output.url := by
  rcases List.mem_append.mp houtput with hvideo | himage
  · obtain ⟨video, hcontent, rfl⟩ := List.mem_map.mp hvideo
    obtain ⟨video', hcontent', hfields⟩ := exists_of_rel
      (content_similar h "videoContent" "video_content") (Option.mem_toList.mp hcontent)
    refine ⟨videoOutput data' video', List.mem_append_left _ ?_, (hfields.firstString_eq _).symm⟩
    exact List.mem_map_of_mem (Option.mem_toList.mpr hcontent')
  · obtain ⟨image, hcontent, rfl⟩ := List.mem_map.mp himage
    obtain ⟨image', hcontent', hfields⟩ := exists_of_rel
      (content_similar h "imageContent" "image_content") (Option.mem_toList.mp hcontent)
    refine ⟨imageOutput data' image', List.mem_append_right _ ?_, (hfields.firstString_eq _).symm⟩
    exact List.mem_map_of_mem (Option.mem_toList.mpr hcontent')

theorem Generated.similar {url : String} (hgenerated : Generated data url)
    (h : SimilarFields data data') : Generated data' url := by
  obtain ⟨hlive, hhttp, output, houtput, hurl⟩ := hgenerated
  obtain ⟨output', houtput', hsame⟩ := itemOutputs_similar h houtput
  refine ⟨?_, hhttp, output', houtput', hsame.trans hurl⟩
  rwa [← itemStatus_similar h]

theorem generatedItem_similar {url : String} (h : SimilarFields data data')
    (hitem : ∃ item, IsItem data item ∧ Generated item url) :
    ∃ item, IsItem data' item ∧ Generated item url := by
  obtain ⟨item, hmem, hgenerated⟩ := hitem
  obtain ⟨item', hmem', hfields⟩ := hmem.similar h
  exact ⟨item', hmem', hgenerated.similar hfields⟩

/-- The join depends on the statuses, and on whether there is an output. -/
theorem SessionJoin.status_eq {result result' : PollResult} (hjoin : SessionJoin data result)
    (hjoin' : SessionJoin data' result')
    (hstatus : ∀ status, HasStatus data status ↔ HasStatus data' status)
    (houtputs : result.outputs = [] ↔ result'.outputs = []) : result'.status = result.status := by
  by_cases hfailed : HasStatus data "FAILED"
  · rw [hjoin.failed hfailed, hjoin'.failed ((hstatus _).mp hfailed)]
  have hfailed' := mt (hstatus "FAILED").mpr hfailed
  by_cases hcomplete : HasStatus data "COMPLETE"
  · rw [hjoin.complete hfailed hcomplete, hjoin'.complete hfailed' ((hstatus _).mp hcomplete)]
  have hcomplete' := mt (hstatus "COMPLETE").mpr hcomplete
  by_cases hpending : HasStatus data "PENDING"
  · rw [hjoin.pending hfailed hcomplete hpending,
      hjoin'.pending hfailed' hcomplete' ((hstatus _).mp hpending)]
  · rw [hjoin.otherwise hfailed hcomplete hpending,
      hjoin'.otherwise hfailed' hcomplete' (mt (hstatus "PENDING").mpr hpending)]
    simp only [houtputs]

/-- One list in another order. -/
theorem parseSession_similar (h : SimilarFields data data') :
    (parseSessionPollResult data').status = (parseSessionPollResult data).status ∧
      ∀ url, url ∈ (parseSessionPollResult data').outputs.map Output.url ↔
        url ∈ (parseSessionPollResult data).outputs.map Output.url := by
  have hjoin := sessionJoin data
  have hjoin' := sessionJoin data'
  have hurls : ∀ url, url ∈ (parseSessionPollResult data').outputs.map Output.url ↔
      url ∈ (parseSessionPollResult data).outputs.map Output.url := by
    intro url
    rw [hjoin.urls, hjoin'.urls]
    exact ⟨generatedItem_similar h.symm, generatedItem_similar h⟩
  refine ⟨hjoin.status_eq hjoin' (fun status => ⟨(·.similar h), (·.similar h.symm)⟩) ?_, hurls⟩
  rw [← List.map_eq_nil_iff (f := Output.url), ← List.map_eq_nil_iff (f := Output.url),
    List.eq_nil_iff_forall_not_mem, List.eq_nil_iff_forall_not_mem]
  exact forall_congr' fun url => not_congr (hurls url).symm

end Reordering

/-- The parser joins the statuses of the session, its items and its iterations, and any order of
any of the lists gives the same status and the same URLs. -/
theorem session_join (data : Fields) :
    SessionJoin data (parseSessionPollResult data) ∧
      ∀ data', Relation.ReflTransGen Reordered (.object data) (.object data') →
        (parseSessionPollResult data').status = (parseSessionPollResult data).status ∧
          ∀ url, url ∈ (parseSessionPollResult data').outputs.map Output.url ↔
            url ∈ (parseSessionPollResult data).outputs.map Output.url := by
  refine ⟨sessionJoin data, ?_⟩
  have hsteps : ∀ value, Relation.ReflTransGen Reordered (.object data) value →
      ∃ data', value = .object data' ∧
        (parseSessionPollResult data').status = (parseSessionPollResult data).status ∧
          ∀ url, url ∈ (parseSessionPollResult data').outputs.map Output.url ↔
            url ∈ (parseSessionPollResult data).outputs.map Output.url := by
    intro value hreordered
    induction hreordered with
    | refl => exact ⟨data, rfl, rfl, fun _ => Iff.rfl⟩
    | tail _ hstep ih =>
      obtain ⟨middle, rfl, hstatus, hurls⟩ := ih
      have hkept := hstep
      cases hstep with
      | field before after key hvalue =>
        obtain ⟨hstatus', hurls'⟩ := parseSession_similar (.inr hkept)
        exact ⟨_, rfl, hstatus'.trans hstatus, fun url => (hurls' url).trans (hurls url)⟩
  intro data' hreordered
  obtain ⟨_, hobject, hresult⟩ := hsteps _ hreordered
  rwa [Document.object.inj hobject]

/-- A session with a failed item and a generated one in its only iteration. -/
def failedItem : Document :=
  .object [("status", .string "ITEM_FAILED"),
    ("videoContent", .object [("generatedVideoUrl", .string "https://cdn/lost.mp4")])]

def generatedItem : Document :=
  .object [("status", .string "COMPLETED"),
    ("videoContent", .object [("generatedVideoUrl", .string "https://cdn/kept.mp4")])]

def mixedSession (items : List Document) : Fields :=
  [("session", .object [("status", .string "RUNNING"),
    ("iterations", .array [.object [("mediaItems", .array items)]])])]

theorem session_join_mixed :
    (parseSessionPollResult (mixedSession [generatedItem, failedItem])).status = "FAILED" := by
  have hreordered : Reordered (.object (mixedSession [failedItem, generatedItem]))
      (.object (mixedSession [generatedItem, failedItem])) :=
    .field [] [] "session" (.field [("status", .string "RUNNING")] [] "iterations"
      (.element [] [] (.field [] [] "mediaItems" (.list (.swap _ _ _)))))
  have hstatus := ((session_join (mixedSession [failedItem, generatedItem])).2 _
    (.single hreordered)).1
  rw [hstatus]
  decide +kernel

end GenerationGateway.CreativeFabrica
