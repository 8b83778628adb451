import GenerationGateway.CreativeFabrica.Cookies

/-!
# Merging cookie documents

For each key a merge holds the last cookie given, in the order in which the keys appear
first. The header takes the first cookie of a name.
-/

namespace GenerationGateway.CreativeFabrica

open Documents Text Checks Merging

variable {rt : Runtime}

/-- A cookie that passes the checks of the normaliser. -/
structure SoundCookie (rt : Runtime) (cookie : Fields) : Prop where
  name : cookieName cookie ≠ ""
  scope : inScope rt cookie = true
  value : validCookieValue (cookieName cookie) (cookieValue cookie) = true

theorem checkCookie_eq_ok {cookie : Fields} :
    checkCookie rt cookie = .ok () ↔ SoundCookie rt cookie := by
  unfold checkCookie
  rw [check_bind_eq_ok, check_bind_eq_ok, check_eq_ok, decide_eq_true_eq]
  constructor
  · rintro ⟨hname, hscope, hvalue⟩
    exact ⟨hname, hscope, hvalue⟩
  · rintro ⟨hname, hscope, hvalue⟩
    exact ⟨hname, hscope, hvalue⟩

theorem checkCookies_eq_ok {cookies : List Fields} :
    checkCookies rt cookies = .ok () ↔ ∀ cookie ∈ cookies, SoundCookie rt cookie := by
  induction cookies with
  | nil => simp [checkCookies]
  | cons cookie rest ih =>
    rw [checkCookies, bind_eq_ok, List.forall_mem_cons, ← ih, ← checkCookie_eq_ok]
    constructor
    · rintro ⟨⟨⟩, hcookie, hrest⟩
      exact ⟨hcookie, hrest⟩
    · rintro ⟨hcookie, hrest⟩
      exact ⟨(), hcookie, hrest⟩

/-- The count and the length that the normaliser allows. -/
def Fits (rt : Runtime) (cookies : List Fields) : Prop :=
  cookies.length ≤ maxCookies ∧ (marshal rt cookies).size ≤ maxCookieJSONBytes

theorem marshal_size_ne_zero (rt : Runtime) (cookies : List Fields) :
    (marshal rt cookies).size ≠ 0 := by
  unfold marshal encodedLength
  omega

theorem readCookies_eq_ok {raw : CookieJSON} {cookies : List Fields} :
    readCookies raw = .ok cookies ↔ raw.array.or raw.wrapped = some cookies := by
  unfold readCookies
  cases raw.array <;> cases raw.wrapped <;> simp

theorem normalizeCookieJSON_eq_ok {raw c : CookieJSON} :
    normalizeCookieJSON rt raw = .ok c ↔
      raw.size ≠ 0 ∧ raw.size ≤ maxCookieJSONBytes ∧
        ∃ cookies, raw.array.or raw.wrapped = some cookies ∧
          (1 ≤ cookies.length ∧ cookies.length ≤ maxCookies) ∧
          (∀ cookie ∈ cookies, SoundCookie rt cookie) ∧ marshal rt cookies = c := by
  unfold normalizeCookieJSON
  rw [check_bind_eq_ok, check_bind_eq_ok, bind_eq_ok, decide_eq_true_eq, decide_eq_true_eq]
  have hstep (cookies : List Fields) :
      (checkCookies rt cookies >>= fun _ => Except.ok (marshal rt cookies)) = .ok c ↔
        (∀ cookie ∈ cookies, SoundCookie rt cookie) ∧ marshal rt cookies = c := by
    rw [bind_eq_ok, ← checkCookies_eq_ok, Except.ok.injEq]
    constructor
    · rintro ⟨⟨⟩, hchecked, hmarshal⟩
      exact ⟨hchecked, hmarshal⟩
    · rintro ⟨hchecked, hmarshal⟩
      exact ⟨(), hchecked, hmarshal⟩
  simp only [readCookies_eq_ok, check_bind_eq_ok, decide_eq_true_eq, hstep]

/-- A document as the merge takes it: one that the normaliser accepts and that is an array,
or what the normaliser has made of one. -/
inductive AcceptedCookies (rt : Runtime) : CookieJSON → List Fields → Prop
  | array {raw c : CookieJSON} {cookies : List Fields} (harray : raw.array = some cookies)
      (hok : normalizeCookieJSON rt raw = .ok c) : AcceptedCookies rt raw cookies
  | normalized {raw c : CookieJSON} {cookies : List Fields} (harray : c.array = some cookies)
      (hok : normalizeCookieJSON rt raw = .ok c) : AcceptedCookies rt c cookies

structure AcceptedCookies.Spec (rt : Runtime) (raw : CookieJSON) (cookies : List Fields) :
    Prop where
  size : raw.size ≠ 0
  array : raw.array = some cookies
  nonempty : cookies ≠ []
  sound : ∀ cookie ∈ cookies, SoundCookie rt cookie

theorem AcceptedCookies.spec {raw : CookieJSON} {cookies : List Fields}
    (h : AcceptedCookies rt raw cookies) : AcceptedCookies.Spec rt raw cookies := by
  cases h with
  | array harray hok =>
    obtain ⟨hsize, -, read, hread, ⟨hcount, -⟩, hsound, -⟩ := normalizeCookieJSON_eq_ok.mp hok
    rw [harray, Option.some_or, Option.some.injEq] at hread
    subst hread
    exact ⟨hsize, harray, List.length_pos_iff.mp hcount, hsound⟩
  | normalized harray hok =>
    obtain ⟨-, -, read, -, ⟨hcount, -⟩, hsound, hmarshal⟩ := normalizeCookieJSON_eq_ok.mp hok
    subst hmarshal
    obtain rfl : read = cookies := Option.some.inj harray
    exact ⟨marshal_size_ne_zero rt read, rfl, List.length_pos_iff.mp hcount, hsound⟩

/-! ### The merge -/

theorem mergeCookies_spec {cookies : List Fields} {merged : Indexed Fields String}
    (hsound : ∀ cookie ∈ cookies, SoundCookie rt cookie)
    (hvalid : merged.Valid (cookieKey rt)) :
    ∃ merged', mergeCookies rt merged cookies = .ok merged' ∧ merged'.Valid (cookieKey rt) ∧
      merged'.entries = cookies.foldl (fun m a => put (cookieKey rt) a m) merged.entries := by
  induction cookies generalizing merged with
  | nil => exact ⟨merged, rfl, hvalid, rfl⟩
  | cons cookie rest ih =>
    obtain ⟨hcookie, hrest⟩ := List.forall_mem_cons.mp hsound
    obtain ⟨hentries, hvalid'⟩ := Indexed.put_spec hvalid cookie
    obtain ⟨merged', hrun, hvalid'', hfold⟩ := ih hrest hvalid'
    refine ⟨merged', ?_, hvalid'', ?_⟩
    · rw [mergeCookies, check_bind_eq_ok, decide_eq_true_eq]
      exact ⟨⟨hcookie.name, hcookie.scope⟩, hrun⟩
    · rw [hfold, hentries]
      rfl

theorem mergeDocuments_spec {documents : List CookieJSON} {given : List (List Fields)}
    {merged : Indexed Fields String}
    (h : List.Forall₂ (AcceptedCookies.Spec rt) documents given)
    (hvalid : merged.Valid (cookieKey rt)) :
    ∃ merged', mergeDocuments rt merged documents = .ok merged' ∧
      merged'.entries =
        given.flatten.foldl (fun m a => put (cookieKey rt) a m) merged.entries := by
  induction h generalizing merged with
  | nil => exact ⟨merged, rfl, rfl⟩
  | @cons raw cookies documents given hraw _ ih =>
    obtain ⟨middle, hmiddle, hvalid', hfold⟩ := mergeCookies_spec hraw.sound hvalid
    obtain ⟨merged', hrun, hfold'⟩ := ih hvalid'
    refine ⟨merged', ?_, ?_⟩
    · rw [mergeDocuments, if_neg hraw.size, hraw.array]
      exact bind_eq_ok.mpr ⟨middle, hmiddle, hrun⟩
    · rw [hfold', hfold, List.flatten_cons, List.foldl_append]

theorem sound_merge {given : List Fields} (h : ∀ cookie ∈ given, SoundCookie rt cookie) :
    ∀ cookie ∈ merge (cookieKey rt) given, SoundCookie rt cookie :=
  fun cookie hcookie => h cookie (mem_of_mem_merge hcookie)

theorem merge_ne_nil {key : Fields → String} {given : List Fields} (h : given ≠ []) :
    merge key given ≠ [] := by
  intro hempty
  obtain ⟨cookie, hcookie⟩ := List.exists_mem_of_ne_nil given h
  have hmem : key cookie ∈ order (given.map key) := mem_order.mpr (List.mem_map_of_mem hcookie)
  rw [← map_merge, hempty] at hmem
  cases hmem

theorem normalizeCookieJSON_marshal {cookies : List Fields} {c : CookieJSON}
    (hne : cookies ≠ []) (hsound : ∀ cookie ∈ cookies, SoundCookie rt cookie) :
    normalizeCookieJSON rt (marshal rt cookies) = .ok c ↔ Fits rt cookies ∧ c = marshal rt cookies := by
  rw [normalizeCookieJSON_eq_ok]
  constructor
  · rintro ⟨-, hsize, read, hread, ⟨-, hcount⟩, -, hmarshal⟩
    obtain rfl : cookies = read := Option.some.inj hread
    exact ⟨⟨hcount, hsize⟩, hmarshal.symm⟩
  · rintro ⟨⟨hcount, hsize⟩, rfl⟩
    exact ⟨marshal_size_ne_zero rt cookies, hsize, cookies, rfl,
      ⟨List.length_pos_iff.mpr hne, hcount⟩, hsound, rfl⟩

theorem flatten_spec {documents : List CookieJSON} {given : List (List Fields)}
    (h : List.Forall₂ (AcceptedCookies.Spec rt) documents given) :
    (given ≠ [] → given.flatten ≠ []) ∧ ∀ cookie ∈ given.flatten, SoundCookie rt cookie := by
  induction h with
  | nil => simp
  | @cons raw cookies documents given hraw _ ih =>
    rw [List.flatten_cons, List.forall_mem_append]
    exact ⟨fun _ => List.append_ne_nil_of_left_ne_nil hraw.nonempty _, hraw.sound, ih.2⟩

/-- The merge of accepted documents is the normal form of their merged cookies. -/
theorem mergeCookieJSON_eq {documents : List CookieJSON} {given : List (List Fields)}
    (h : List.Forall₂ (AcceptedCookies.Spec rt) documents given) (hne : given ≠ []) :
    mergeCookieJSON rt documents =
      (normalizeCookieJSON rt (marshal rt (merge (cookieKey rt) given.flatten))).map some := by
  obtain ⟨merged, hrun, hentries⟩ := mergeDocuments_spec h (Indexed.valid_empty (cookieKey rt))
  have hmerged : merged.entries = merge (cookieKey rt) given.flatten := hentries
  unfold mergeCookieJSON
  rw [hrun]
  change (if merged.entries = [] then _ else _) = _
  rw [hmerged, if_neg (merge_ne_nil ((flatten_spec h).1 hne))]
  cases normalizeCookieJSON rt (marshal rt (merge (cookieKey rt) given.flatten)) <;> rfl

theorem mergeCookieJSON_eq_ok {documents : List CookieJSON} {given : List (List Fields)}
    {result : Option CookieJSON} (h : List.Forall₂ (AcceptedCookies.Spec rt) documents given)
    (hne : given ≠ []) :
    mergeCookieJSON rt documents = .ok result ↔
      Fits rt (merge (cookieKey rt) given.flatten) ∧
        result = some (marshal rt (merge (cookieKey rt) given.flatten)) := by
  obtain ⟨hnonempty, hsound⟩ := flatten_spec h
  have hkept : merge (cookieKey rt) given.flatten ≠ [] := merge_ne_nil (hnonempty hne)
  have hiff (c : CookieJSON) := normalizeCookieJSON_marshal (c := c) hkept (sound_merge hsound)
  rw [mergeCookieJSON_eq h hne]
  constructor
  · intro hmap
    cases hnormal : normalizeCookieJSON rt (marshal rt (merge (cookieKey rt) given.flatten)) with
    | error err =>
      rw [hnormal] at hmap
      cases hmap
    | ok c =>
      rw [hnormal] at hmap
      obtain rfl : some c = result := Except.ok.inj hmap
      obtain ⟨hfits, rfl⟩ := (hiff c).mp hnormal
      exact ⟨hfits, rfl⟩
  · rintro ⟨hfits, rfl⟩
    rw [(hiff _).mpr ⟨hfits, rfl⟩]
    rfl

/-- A merged document can be merged further. -/
theorem marshal_merge_spec {documents : List CookieJSON} {given : List (List Fields)}
    (h : List.Forall₂ (AcceptedCookies.Spec rt) documents given) (hne : given ≠ []) :
    AcceptedCookies.Spec rt (marshal rt (merge (cookieKey rt) given.flatten))
      (merge (cookieKey rt) given.flatten) where
  size := marshal_size_ne_zero rt _
  array := rfl
  nonempty := merge_ne_nil ((flatten_spec h).1 hne)
  sound := sound_merge (flatten_spec h).2

/-! ### The header -/

/-- The header has a name once, with the value of its first cookie. -/
theorem headerParts_spec {cookies : List Fields} (seen : List String)
    (hsound : ∀ cookie ∈ cookies, SoundCookie rt cookie) :
    ∃ parts, headerParts rt seen cookies = .ok parts ∧
      (parts.map Prod.fst).Nodup ∧ (∀ name ∈ parts.map Prod.fst, name ∉ seen) ∧
      ∀ name, name ∉ seen → isCookieMetadata name = false →
        parts.lookup name = (cookies.find? fun cookie => cookieName cookie = name).map cookieValue := by
  induction cookies generalizing seen with
  | nil => exact ⟨[], rfl, List.nodup_nil, by simp, fun _ _ _ => rfl⟩
  | cons cookie rest ih =>
    obtain ⟨hcookie, hrest⟩ := List.forall_mem_cons.mp hsound
    have hchecked : (cookieName cookie ≠ "" ∧ inScope rt cookie) := ⟨hcookie.name, hcookie.scope⟩
    by_cases hmeta : isCookieMetadata (cookieName cookie) = true
    · obtain ⟨parts, hrun, hnodup, hfresh, hlookup⟩ := ih seen hrest
      refine ⟨parts, ?_, hnodup, hfresh, ?_⟩
      · rw [headerParts, check_bind_eq_ok, decide_eq_true_eq, if_pos hmeta]
        exact ⟨hchecked, hrun⟩
      · intro name hname hplain
        have hne : cookieName cookie ≠ name := by
          rintro rfl
          rw [hmeta] at hplain
          cases hplain
        rw [List.find?_cons_of_neg (by simpa using hne)]
        exact hlookup name hname hplain
    · by_cases hseen : cookieName cookie ∈ seen
      · obtain ⟨parts, hrun, hnodup, hfresh, hlookup⟩ := ih seen hrest
        refine ⟨parts, ?_, hnodup, hfresh, ?_⟩
        · rw [headerParts, check_bind_eq_ok, decide_eq_true_eq, if_neg hmeta, check_bind_eq_ok,
            if_pos hseen]
          exact ⟨hchecked, hcookie.value, hrun⟩
        · intro name hname hplain
          have hne : cookieName cookie ≠ name := fun heq => hname (heq ▸ hseen)
          rw [List.find?_cons_of_neg (by simpa using hne)]
          exact hlookup name hname hplain
      · obtain ⟨parts, hrun, hnodup, hfresh, hlookup⟩ := ih (cookieName cookie :: seen) hrest
        refine ⟨(cookieName cookie, cookieValue cookie) :: parts, ?_, ?_, ?_, ?_⟩
        · rw [headerParts, check_bind_eq_ok, decide_eq_true_eq, if_neg hmeta, check_bind_eq_ok,
            if_neg hseen]
          exact ⟨hchecked, hcookie.value, bind_eq_ok.mpr ⟨parts, hrun, rfl⟩⟩
        · rw [List.map_cons, List.nodup_cons]
          exact ⟨fun hmem => hfresh _ hmem List.mem_cons_self, hnodup⟩
        · rw [List.map_cons, List.forall_mem_cons]
          exact ⟨hseen, fun name hmem hin => hfresh name hmem (List.mem_cons_of_mem _ hin)⟩
        · intro name hname hplain
          rw [List.lookup_cons, List.find?_cons]
          by_cases heq : cookieName cookie = name
          · simp [heq]
          · have hbeq : (name == cookieName cookie) = false := by
              simpa using fun h => heq h.symm
            rw [hbeq]
            simp only [heq, decide_false]
            apply hlookup name _ hplain
            rw [List.mem_cons, not_or]
            exact ⟨Ne.symm heq, hname⟩

/-- The first merged cookie of a name is a new one, unless an old one of that name stays. -/
theorem first_named_new {key : Fields → String} {old new : List Fields} {cookie : Fields}
    (hlast : last key new (key cookie) = some cookie)
    (hold : ∀ c ∈ old, cookieName c = cookieName cookie → key c ∈ new.map key) :
    ∃ first ∈ new,
      (merge key (old ++ new)).find? (fun c => cookieName c = cookieName cookie) = some first := by
  have hkept : cookie ∈ merge key (old ++ new) := by
    have hfind : (merge key (old ++ new)).find? (fun c => key c = key cookie) = some cookie := by
      rw [find?_merge, last_append, hlast, Option.some_or]
    exact List.mem_of_find?_eq_some hfind
  cases hfirst : (merge key (old ++ new)).find? fun c => cookieName c = cookieName cookie with
  | none =>
    have hnone := List.find?_eq_none.mp hfirst cookie hkept
    simp at hnone
  | some first =>
    have hmem := List.mem_of_find?_eq_some hfirst
    have hname : cookieName first = cookieName cookie := by
      simpa using List.find?_some hfirst
    have hown := last_of_mem_merge hmem
    refine ⟨first, ?_, rfl⟩
    rcases List.mem_append.mp (mem_of_mem_merge hmem) with hfirst_old | hfirst_new
    · cases hnew : last key new (key first) with
      | none =>
        obtain ⟨c, hc, hkey⟩ := List.mem_map.mp (hold first hfirst_old hname)
        rw [last, List.find?_eq_none] at hnew
        exact absurd hkey (by simpa using hnew c (List.mem_reverse.mpr hc))
      | some c =>
        rw [last_append, hnew, Option.some_or, Option.some.injEq] at hown
        exact hown ▸ (mem_of_last hnew).1
    · exact hfirst_new

/-! ### The keys -/

/-- Neither the name nor the domain holds the character that separates the parts of a key. -/
def NulFree (rt : Runtime) (cookie : Fields) : Prop :=
  '\x00' ∉ (rt.toLower (cookieName cookie)).toList ∧
    '\x00' ∉ (rt.toLower (cookieDomain cookie)).toList

/-- Without separators in them, two cookies have one key exactly if their names and domains
agree up to case and their paths agree. -/
theorem cookieKey_eq_iff {cookie cookie' : Fields} (h : NulFree rt cookie)
    (h' : NulFree rt cookie') :
    cookieKey rt cookie = cookieKey rt cookie' ↔
      rt.toLower (cookieName cookie) = rt.toLower (cookieName cookie') ∧
        rt.toLower (cookieDomain cookie) = rt.toLower (cookieDomain cookie') ∧
        (cookie.value "path").stringValue = (cookie'.value "path").stringValue := by
  have hchars (c : Fields) : (cookieKey rt c).toList =
      (rt.toLower (cookieName c)).toList ++ '\x00' ::
        ((rt.toLower (cookieDomain c)).toList ++ '\x00' ::
          (c.value "path").stringValue.toList) := by
    simp [cookieKey]
  rw [← String.toList_inj, hchars, hchars, append_cons_inj h.1 h'.1, append_cons_inj h.2 h'.2,
    String.toList_inj, String.toList_inj, String.toList_inj]

/-! ### A refresh -/

theorem refreshed_cookies {stored new third : CookieJSON} {olds news thirds : List Fields}
    (hstored : AcceptedCookies rt stored olds) (hnew : AcceptedCookies rt new news)
    (hthird : AcceptedCookies rt third thirds) :
    ((∃ merged, mergeCookieJSON rt [stored, new] = .ok (some merged)) ↔
      Fits rt (merge (cookieKey rt) (olds ++ news))) ∧
    (∀ a b, NulFree rt a → NulFree rt b → (cookieKey rt a = cookieKey rt b ↔
      rt.toLower (cookieName a) = rt.toLower (cookieName b) ∧
        rt.toLower (cookieDomain a) = rt.toLower (cookieDomain b) ∧
        (a.value "path").stringValue = (b.value "path").stringValue)) ∧
    mergeCookieJSON rt [stored, stored] = mergeCookieJSON rt [stored] ∧
    ∀ merged, mergeCookieJSON rt [stored, new] = .ok (some merged) →
      (∃ cookies, merged.array = some cookies ∧
        cookies.map (cookieKey rt) = order ((olds ++ news).map (cookieKey rt)) ∧
        ∀ k, cookies.find? (fun c => cookieKey rt c = k) =
          last (cookieKey rt) (olds ++ news) k) ∧
      mergeCookieJSON rt [merged, merged] = .ok (some merged) ∧
      mergeCookieJSON rt [merged, new] = .ok (some merged) ∧
      (∀ rest, mergeCookieJSON rt [new, third] = .ok (some rest) →
        mergeCookieJSON rt [merged, third] = mergeCookieJSON rt [stored, rest]) ∧
      ∀ cookie, last (cookieKey rt) news (cookieKey rt cookie) = some cookie →
        isCookieMetadata (cookieName cookie) = false →
        (∀ old ∈ olds, cookieName old = cookieName cookie →
          cookieKey rt old ∈ news.map (cookieKey rt)) →
        ∃ first ∈ news, cookieName first = cookieName cookie ∧ ∃ parts,
          mergeCreativeFabricaCookies rt [stored, new] =
            .ok (some (merged, renderHeader parts)) ∧
          (parts.map Prod.fst).Nodup ∧
          parts.lookup (cookieName cookie) = some (cookieValue first) := by
  have ha := hstored.spec
  have hb := hnew.spec
  have hc := hthird.spec
  have hab : List.Forall₂ (AcceptedCookies.Spec rt) [stored, new] [olds, news] :=
    .cons ha (.cons hb .nil)
  have hbc : List.Forall₂ (AcceptedCookies.Spec rt) [new, third] [news, thirds] :=
    .cons hb (.cons hc .nil)
  have hflat (xs ys : List Fields) : [xs, ys].flatten = xs ++ ys := by simp
  refine ⟨?_, fun _ _ ha hb => cookieKey_eq_iff ha hb, ?_, ?_⟩
  · simp only [mergeCookieJSON_eq_ok hab (by simp), hflat, Option.some.injEq]
    constructor
    · rintro ⟨merged, hfits, -⟩
      exact hfits
    · intro hfits
      exact ⟨_, hfits, rfl⟩
  · rw [mergeCookieJSON_eq (.cons ha (.cons ha .nil)) (by simp),
      mergeCookieJSON_eq (.cons ha .nil) (by simp), hflat, List.flatten_singleton,
      merge_append_idem]
  · intro merged hmerged
    obtain ⟨hfits, hresult⟩ := (mergeCookieJSON_eq_ok hab (by simp)).mp hmerged
    have hm := marshal_merge_spec hab (by simp)
    rw [hflat] at hfits hresult hm
    obtain rfl := Option.some.inj hresult
    refine ⟨⟨_, rfl, map_merge _ _, find?_merge _ _⟩, ?_, ?_, ?_, ?_⟩
    · rw [mergeCookieJSON_eq_ok (.cons hm (.cons hm .nil)) (by simp), hflat,
        merge_merge_append, merge_append_merge, merge_append_idem]
      exact ⟨hfits, rfl⟩
    · rw [mergeCookieJSON_eq_ok (.cons hm (.cons hb .nil)) (by simp), hflat,
        merge_merge_append, merge_append_self]
      exact ⟨hfits, rfl⟩
    · intro rest hrest
      obtain ⟨-, hresult'⟩ := (mergeCookieJSON_eq_ok hbc (by simp)).mp hrest
      have hr := marshal_merge_spec hbc (by simp)
      rw [hflat] at hresult' hr
      obtain rfl := Option.some.inj hresult'
      rw [mergeCookieJSON_eq (.cons hm (.cons hc .nil)) (by simp),
        mergeCookieJSON_eq (.cons ha (.cons hr .nil)) (by simp), hflat, hflat,
        merge_merge_append, merge_append_merge, List.append_assoc]
    · intro cookie hlast hplain hold
      obtain ⟨first, hfirst, hfind⟩ := first_named_new hlast hold
      obtain ⟨parts, hparts, hnodup, -, hlookup⟩ := headerParts_spec [] hm.sound
      have hvalue := hlookup (cookieName cookie) List.not_mem_nil hplain
      rw [hfind, Option.map_some] at hvalue
      have hne : parts ≠ [] := by
        rintro rfl
        cases hvalue
      have hheader : cookieHeaderFromJSON rt (marshal rt (merge (cookieKey rt) (olds ++ news))) =
          .ok (renderHeader parts) := by
        unfold cookieHeaderFromJSON
        rw [hm.array]
        exact bind_eq_ok.mpr ⟨parts, hparts, check_bind_eq_ok.mpr ⟨decide_eq_true hne, rfl⟩⟩
      refine ⟨first, hfirst, by simpa using List.find?_some hfind, parts, ?_, hnodup, hvalue⟩
      unfold mergeCreativeFabricaCookies
      rw [hmerged]
      change (cookieHeaderFromJSON rt _ >>= _) = _
      exact bind_eq_ok.mpr ⟨_, hheader, rfl⟩

/-! ### Concrete documents -/

/-- Cookies without a URL, whose texts have ASCII capitals only. -/
def plainRuntime : Runtime where
  toLower := Text.toLower
  hostname := fun _ => some ""
  numberLength := fun n => n.text.utf8ByteSize

def plainCookie (name value domain : String) : Fields :=
  [("name", .string name), ("value", .string value), ("domain", .string domain),
    ("path", .string "/")]

/-- A value of many letters. -/
def longValue (n : ℕ) : String := String.ofList (List.replicate n 'a')

theorem acceptedCookies_marshal {cookies : List Fields} (hne : cookies ≠ [])
    (hsound : ∀ cookie ∈ cookies, SoundCookie rt cookie) (hfits : Fits rt cookies) :
    AcceptedCookies rt (marshal rt cookies) cookies :=
  .array rfl ((normalizeCookieJSON_marshal hne hsound).mpr ⟨hfits, rfl⟩)

theorem session_accepted (value domain : String)
    (hsound : SoundCookie plainRuntime (plainCookie "session" value domain))
    (hfits : Fits plainRuntime [plainCookie "session" value domain]) :
    AcceptedCookies plainRuntime (marshal plainRuntime [plainCookie "session" value domain])
      [plainCookie "session" value domain] := by
  apply acceptedCookies_marshal (by simp) _ hfits
  intro cookie hcookie
  exact List.mem_singleton.mp hcookie ▸ hsound

/-- A new session cookie on the domain of the stored one is the one that is sent. -/
theorem refreshed_cookies_session :
    ∃ merged parts,
      mergeCreativeFabricaCookies plainRuntime
        [marshal plainRuntime [plainCookie "session" "old" ".creativefabrica.com"],
          marshal plainRuntime [plainCookie "session" "new" ".creativefabrica.com"]] =
        .ok (some (merged, renderHeader parts)) ∧
      parts.lookup "session" = some "new" := by
  have hold := session_accepted "old" ".creativefabrica.com"
    ⟨by decide +kernel, by decide +kernel, by decide +kernel⟩ ⟨by decide, by decide⟩
  have hnew := session_accepted "new" ".creativefabrica.com"
    ⟨by decide +kernel, by decide +kernel, by decide +kernel⟩ ⟨by decide, by decide⟩
  obtain ⟨hmerges, -, -, hall⟩ := refreshed_cookies hold hnew hnew
  obtain ⟨merged, hmerged⟩ := hmerges.mpr ⟨by decide +kernel, by decide +kernel⟩
  obtain ⟨-, -, -, -, hheader⟩ := hall merged hmerged
  obtain ⟨first, hfirst, -, parts, hrun, -, hlookup⟩ :=
    hheader (plainCookie "session" "new" ".creativefabrica.com")
      (by rw [last, List.reverse_singleton, List.find?_singleton, if_pos (by simp)])
      (by decide +kernel) (by
        intro old hold' _
        rw [List.mem_singleton.mp hold']
        decide +kernel)
  have hvalue : cookieValue first = "new" := by
    rw [List.mem_singleton.mp hfirst]
    decide +kernel
  have hname : cookieName (plainCookie "session" "new" ".creativefabrica.com") = "session" := by
    decide +kernel
  rw [hname, hvalue] at hlookup
  exact ⟨merged, parts, hrun, hlookup⟩

theorem longValue_length (n : ℕ) : stringLength (longValue n) = 2 + n := by
  have hletter : escapedLength 'a' = 1 := by decide
  simp [stringLength, longValue, hletter]

theorem longCookie_sound {name : String} (n : ℕ)
    (hname : SoundCookie plainRuntime (plainCookie name "" ".creativefabrica.com")) :
    SoundCookie plainRuntime (plainCookie name (longValue n) ".creativefabrica.com") := by
  refine ⟨hname.name, hname.scope, ?_⟩
  have hvalue : cookieValue (plainCookie name (longValue n) ".creativefabrica.com") =
      longValue n := by
    apply trimSpace_of_forall
    intro c hc
    rw [longValue, String.toList_ofList] at hc
    rw [List.eq_of_mem_replicate hc]
    decide
  rw [hvalue]
  unfold validCookieValue
  split_ifs <;> simp [longValue]

theorem longCookie_length (name : String) (n : ℕ) :
    encodedLength plainRuntime (.object (plainCookie name (longValue n) ".creativefabrica.com")) =
      stringLength name + n + 63 := by
  have hkeys : stringLength "name" = 6 ∧ stringLength "value" = 7 ∧ stringLength "domain" = 8 ∧
      stringLength "path" = 6 ∧ stringLength ".creativefabrica.com" = 22 ∧ stringLength "/" = 3 := by
    decide
  obtain ⟨h1, h2, h3, h4, h5, h6⟩ := hkeys
  simp only [plainCookie, encodedLength, fieldsLength, longValue_length, h1, h2, h3, h4, h5, h6]
  omega

theorem longDocument_sound {names : List String} (n : ℕ)
    (h : ∀ name ∈ names, SoundCookie plainRuntime (plainCookie name "" ".creativefabrica.com")) :
    ∀ cookie ∈ names.map fun name => plainCookie name (longValue n) ".creativefabrica.com",
      SoundCookie plainRuntime cookie := by
  intro cookie hcookie
  obtain ⟨name, hname, rfl⟩ := List.mem_map.mp hcookie
  exact longCookie_sound n (h name hname)

theorem longDocument_size (names : List String) (n : ℕ) (hne : names ≠ []) :
    (marshal plainRuntime
      (names.map fun name => plainCookie name (longValue n) ".creativefabrica.com")).size =
      1 + (names.map fun name => stringLength name + n + 64).sum := by
  have hitems : itemsLength plainRuntime ((names.map fun name =>
      plainCookie name (longValue n) ".creativefabrica.com").map .object) =
      (names.map fun name => stringLength name + n + 64).sum := by
    clear hne
    induction names with
    | nil => rfl
    | cons name rest ih =>
      rw [List.map_cons, List.map_cons, itemsLength, ih, longCookie_length]
      rfl
  obtain ⟨name, rest, rfl⟩ := List.exists_cons_of_ne_nil hne
  change encodedLength plainRuntime (.array _) = _
  rw [encodedLength, hitems, List.map_cons, List.sum_cons]
  omega

/-- The stored session cookie of another domain is sent in place of the new one, and two
documents within the limits can be too long together. -/
theorem stored_session_stays :
    (AcceptedCookies plainRuntime
        (marshal plainRuntime [plainCookie "session" "old" ".creativefabrica.com"])
        [plainCookie "session" "old" ".creativefabrica.com"] ∧
      AcceptedCookies plainRuntime
        (marshal plainRuntime [plainCookie "session" "new" "studio.creativefabrica.com"])
        [plainCookie "session" "new" "studio.creativefabrica.com"] ∧
      (mergeCreativeFabricaCookies plainRuntime
        [marshal plainRuntime [plainCookie "session" "old" ".creativefabrica.com"],
          marshal plainRuntime
            [plainCookie "session" "new" "studio.creativefabrica.com"]]).toOption.join.map
        Prod.snd = some "session=old") ∧
    ∃ stored new olds news, AcceptedCookies plainRuntime stored olds ∧
      AcceptedCookies plainRuntime new news ∧
      ∀ merged, mergeCookieJSON plainRuntime [stored, new] ≠ .ok (some merged) := by
  constructor
  · exact ⟨session_accepted _ _ ⟨by decide +kernel, by decide +kernel, by decide +kernel⟩
        ⟨by decide, by decide⟩,
      session_accepted _ _ ⟨by decide +kernel, by decide +kernel, by decide +kernel⟩
        ⟨by decide, by decide⟩, by decide +kernel⟩
  · have hname : ∀ name ∈ ["a", "b"],
        SoundCookie plainRuntime (plainCookie name "" ".creativefabrica.com") := by
      simp only [List.forall_mem_cons]
      exact ⟨⟨by decide +kernel, by decide +kernel, by decide +kernel⟩,
        ⟨by decide +kernel, by decide +kernel, by decide +kernel⟩, by simp⟩
    have hlength : ∀ name ∈ ["a", "b"], stringLength name = 3 := by decide
    have haccepted (name : String) (hin : name ∈ ["a", "b"]) :
        AcceptedCookies plainRuntime
          (marshal plainRuntime
            ([name].map fun name => plainCookie name (longValue 300000) ".creativefabrica.com"))
          ([name].map fun name => plainCookie name (longValue 300000) ".creativefabrica.com") := by
      apply acceptedCookies_marshal (by simp)
      · apply longDocument_sound
        intro name' hname'
        exact List.mem_singleton.mp hname' ▸ hname name hin
      · refine ⟨by simp [maxCookies], ?_⟩
        rw [longDocument_size [name] 300000 (by simp)]
        simp [hlength name hin, maxCookieJSONBytes]
    have ha := haccepted "a" (by simp)
    have hb := haccepted "b" (by simp)
    refine ⟨_, _, _, _, ha, hb, ?_⟩
    intro merged hmerged
    obtain ⟨⟨-, hsize⟩, -⟩ :=
      (mergeCookieJSON_eq_ok (.cons ha.spec (.cons hb.spec .nil)) (by simp)).mp hmerged
    have hboth : (["a", "b"].map fun name =>
        cookieKey plainRuntime (plainCookie name (longValue 300000) ".creativefabrica.com")).Nodup := by
      decide +kernel
    rw [List.flatten_cons, List.flatten_singleton, ← List.map_append, merge_of_nodup (by
      rw [List.map_map]
      exact hboth)] at hsize
    have htotal := longDocument_size ["a", "b"] 300000 (by simp)
    simp only [List.map_cons, List.map_nil, List.sum_cons, List.sum_nil,
      hlength "a" (by simp), hlength "b" (by simp)] at htotal
    simp only [List.cons_append, List.nil_append, List.map_cons, List.map_nil, htotal,
      maxCookieJSONBytes] at hsize
    omega

end GenerationGateway.CreativeFabrica
