import TextMemory.Proofs.Memory.Name
import TextMemory.Web.Service

/-!
# Requests about a source

A request that writes names its source in the body, and those that read or delete name it in the
query. Only the first drops the blanks around the name.
-/
namespace TextMemory.Web

open TextMemory.Action

structure Request.Asks (r : Request) (method name : String) : Prop where
  method : Text.upper r.method = method
  path : r.target.path = "/api/v1/memory/source"
  query : r.target.query.reverse.lookup "source" = some name

structure Request.Posts (r : Request) (content source : String) : Prop where
  method : Text.upper r.method = "POST"
  path : r.target.path = "/api/v1/memory/write"
  body : ∃ members, Service.bodyValue r.content = .ok (some (.object members)) ∧
    members.lookup "content" = some (.string content) ∧
    members.lookup "source" = some (.string source)

theorem Checked.both_eq_ok {α β : Type} {a : Checked α} {b : Checked β} {p : α × β} :
    Checked.both a b = .ok p ↔ a = .ok p.1 ∧ b = .ok p.2 := by
  cases a <;> cases b <;> simp [Checked.both, Prod.ext_iff]

theorem Field.filledText_string {f : Field} {text given : String}
    (hf : f.value = some (.string given))
    (h : f.filledText = .ok text) : text = given := by
  rw [filledText, hf] at h
  dsimp only at h
  split at h
  · cases h
  · exact (Except.ok.inj h).symm

namespace Service

variable {s : Service} {r : Request}

section

variable [Numerics]

theorem offerAt_of_find {path place : String} {offer : Offer}
    (hpages : pages.any (isAt (base ++ path.toList)) = false)
    (hfind : fixedOffers.find? (fun o => isAt path.toList o.1) = some (place, offer)) :
    offerAt? (base ++ path.toList) = some offer := by
  have hbase : base.isPrefixOf (base ++ path.toList) = true :=
    List.isPrefixOf_iff_prefix.mpr (List.prefix_append _ _)
  rw [offerAt?, if_neg (by simp [hpages]), if_pos hbase, List.drop_left, offer?, hfind]

theorem offerAt_write : offerAt? "/api/v1/memory/write".toList = some [("POST", write)] := by
  have hpath : "/api/v1/memory/write".toList = base ++ "/memory/write".toList := by decide +kernel
  have hfind : fixedOffers.find? (fun o => isAt "/memory/write".toList o.1) =
      some ("/memory/write", [("POST", write)]) := by
    simp +decide only [fixedOffers, List.find?_cons_of_neg, List.find?_cons_of_pos]
  rw [hpath, offerAt_of_find (by decide +kernel) hfind]

theorem offerAt_source : offerAt? "/api/v1/memory/source".toList =
    some [("GET", readSource), ("DELETE", deleteSource)] := by
  have hpath : "/api/v1/memory/source".toList = base ++ "/memory/source".toList := by decide +kernel
  have hfind : fixedOffers.find? (fun o => isAt "/memory/source".toList o.1) =
      some ("/memory/source", [("GET", readSource), ("DELETE", deleteSource)]) := by
    simp +decide only [fixedOffers, List.find?_cons_of_neg, List.find?_cons_of_pos]
  rw [hpath, offerAt_of_find (by decide +kernel) hfind]

theorem respond_offer {path method : String} {offer : Offer}
    {handler : Request → StateM Service Response}
    (hpath : r.target.path = path) (hmethod : Text.upper r.method = method)
    (hoffer : offerAt? path.toList = some offer) (hhandler : offer.lookup method = some handler)
    (hhead : method ≠ "HEAD") : respond r s = handler { r with method := method } s := by
  subst hpath hmethod
  have hdispatch : dispatch { r with method := Text.upper r.method } =
      handler { r with method := Text.upper r.method } := by
    simp only [dispatch, hoffer, hhandler]
  have hrespond : respond r s =
      ((if Text.upper r.method = "HEAD" then
        { (dispatch { r with method := Text.upper r.method } s).1 with body := .text "" }
        else (dispatch { r with method := Text.upper r.method } s).1),
        (dispatch { r with method := Text.upper r.method } s).2) := rfl
  rw [hrespond, if_neg hhead, hdispatch, Prod.mk.eta]

end

theorem queryValue_of_lookup {key name : String} (h : r.target.query.reverse.lookup key = some name)
    (hname : name ≠ "") : queryValue r key = .ok name := by
  have hempty : name.isEmpty = false := by simpa using hname
  simp [queryValue, h, Field.filledText, hempty]

theorem answer_ok {α : Type} {a : Action Memory α} {x : α} {n : Memory}
    (h : a.perform s.memory = (.ok x, n)) (whenOk : α → Response) (whenFault : Fault → Response) :
    answer a whenOk whenFault s = (whenOk x, { s with memory := n }) := by
  rw [answer, h]

/-- What a service answers to requests for a name. -/
structure Has [Numerics] (s : Service) (name : String) (content? : Option String) (count : Nat) :
    Prop where
  reads : ∀ r : Request, r.Asks "GET" name → (respond r s).1 = match content? with
    | some text => .ok (.object [("source", .string name), ("content", .string text)])
    | none => .detail 404 (Memory.notFound name)
  deletes : ∀ r : Request, r.Asks "DELETE" name →
    (respond r s).1 = .ok (.object [("source", .string name), ("deleted", .int count)])

theorem has_of_memory [Numerics] {name : String} {content? : Option String} {count : Nat}
    (h : s.memory.Has name content? count) (hname : name ≠ "") : s.Has name content? count := by
  constructor
  · intro r hr
    obtain ⟨n, hn⟩ := h.reads
    have hhandler : respond r s = readSource { r with method := "GET" } s :=
      respond_offer hr.path hr.method offerAt_source rfl (by decide)
    have hvalue : queryValue { r with method := "GET" } "source" = .ok name :=
      queryValue_of_lookup hr.query hname
    rw [hhandler, readSource, hvalue, reading]
    refine (congrArg Prod.fst (answer_ok hn _ _)).trans ?_
    cases content? <;> rfl
  · intro r hr
    obtain ⟨n, hn, -⟩ := h.deletes
    have hhandler : respond r s = deleteSource { r with method := "DELETE" } s :=
      respond_offer hr.path hr.method offerAt_source rfl (by decide)
    have hvalue : queryValue { r with method := "DELETE" } "source" = .ok name :=
      queryValue_of_lookup hr.query hname
    rw [hhandler, deleteSource, hvalue, reading]
    exact congrArg Prod.fst (answer_ok hn _ _)

theorem invalid_status (fs : List Finding) : 400 ≤ (Response.invalid fs).status := by
  rw [Response.invalid]
  split <;> simp [Response.broken]

theorem ofFault_status (f : Fault) : 400 ≤ (Response.ofFault f).status := by
  rw [Response.ofFault]
  split <;> simp [Response.broken, Response.detail]

theorem withFields_object {α : Type} {c : Content} {members : List (String × Json)}
    (h : bodyValue c = .ok (some (.object members))) (f : (String → Field) → Checked α) :
    withFields c f = (f fun name => ⟨["body", name], .object members, members.lookup name⟩).mapError
      Response.invalid := by
  simp only [withFields, h, Result.ok_bind]
  cases f fun name => ⟨["body", name], .object members, members.lookup name⟩ <;> rfl

/-- A request to write that is granted has written the content under the name it gives. -/
theorem respond_write [Numerics] {content source : String} (h : r.Posts content source)
    (hstatus : (respond r s).1.status = 200) :
    ∃ title w n, (Memory.write content (some source) title).perform s.memory = (.ok w, n) ∧
      respond r s =
        (.ok (.object [("chunks_written", .int w.chunks), ("source", .string w.source)]),
        { s with memory := n }) := by
  have hhandler : respond r s = write { r with method := "POST" } s :=
    respond_offer h.path h.method offerAt_write rfl (by decide)
  obtain ⟨members, hbody, hcontent, hsource⟩ := h.body
  rw [hhandler, write, withFields_object hbody] at hstatus ⊢
  dsimp only at hstatus ⊢
  -- the fields are sound, or there would be another status
  generalize hfields : Checked.both
      (Field.filledText ⟨["body", "content"], .object members, members.lookup "content"⟩)
      (Checked.both
        (Field.optionalText ⟨["body", "source"], .object members, members.lookup "source"⟩)
        (Field.optionalText ⟨["body", "title"], .object members, members.lookup "title"⟩)) =
          fields at hstatus ⊢
  cases fields with
  | error fs =>
    exact absurd ((invalid_status fs).trans_eq hstatus) (by decide)
  | ok fields =>
    obtain ⟨text, given, title⟩ := fields
    obtain ⟨htext, hothers⟩ := Checked.both_eq_ok.mp hfields
    obtain ⟨hgiven, -⟩ := Checked.both_eq_ok.mp hothers
    obtain rfl : text = content := Field.filledText_string hcontent htext
    obtain rfl : given = some source := by
      rw [Field.optionalText, hsource] at hgiven
      exact (Except.ok.inj hgiven).symm
    cases hwrite : (Memory.write text (some source) (Json.textOrNull title)).perform s.memory with
    | mk answer n =>
      simp only [Except.mapError, reading, Service.answer, hwrite] at hstatus ⊢
      cases answer with
      | error f => exact absurd ((ofFault_status f).trans_eq hstatus) (by decide)
      | ok w => exact ⟨_, w, n, hwrite, rfl⟩

/-- What is written under a name, by a memory or over the service, is read and deleted under the
name without the blanks around it. Under the name as it was given it is found just where it has no
blanks around it; the tool that reads finds it in any case. -/
theorem found_under_stripped_name [Numerics] {medium : Medium}
    (hmedium : medium.table = Table.empty) (es : List Memory.Event) {m : Memory}
    (hm : m.store.medium = ((Memory.History.start medium).run es).medium) {source : String}
    (hsource : Text.isBlankText source = false) (content : String) :
    (∀ title w n, (Memory.write content (some source) title).perform m = (.ok w, n) →
      w.source = Text.strip source ∧ 0 < w.chunks ∧ n.store.Opens ∧
      ∀ k : Memory, k.store.medium = n.store.medium → k.store.Opens →
        k.Has (Text.strip source) (some content) w.chunks ∧
        k.Has source (if Text.strip source = source then some content else none)
          (if Text.strip source = source then w.chunks else 0) ∧
        ∀ members, members.lookup "source" = some (.string source) →
          ((Tool.execute .get (.object members)).run k).1 = .text content) ∧
    ∀ (s : Service) (r : Request), s.memory = m → r.Posts content source →
    (respond r s).1.status = 200 →
      ∃ count : Nat, 0 < count ∧ (respond r s).1 = .ok (.object
          [("chunks_written", .int count), ("source", .string (Text.strip source))]) ∧
        (respond r s).2.memory.store.Opens ∧
        ∀ k : Service, k.memory.store.medium = (respond r s).2.memory.store.medium →
        k.memory.store.Opens →
          k.Has (Text.strip source) (some content) count ∧
          k.Has source (if Text.strip source = source then some content else none)
            (if Text.strip source = source then count else 0) := by
  have hauthored : m.store.medium.table.Authored fun _ _ => True := by
    rw [hm]
    exact Memory.History.authored_run (fun _ _ _ _ _ _ _ _ _ _ _ _ => trivial)
      (Memory.History.authored_start hmedium)
  have hstripped : Text.strip source ≠ "" := by
    intro hempty
    have hblank := Text.strip_isEmpty source
    rw [hempty, hsource] at hblank
    cases hblank
  have hgiven : source ≠ "" := by
    rintro rfl
    cases hsource
  constructor
  · intro title w n hwrite
    obtain ⟨hname, hhas⟩ := Memory.has_of_write hauthored hsource hwrite
    refine ⟨hname, (Memory.write_count hwrite).2, .inl (Memory.write_opened hwrite),
      fun k hk hopens => ?_⟩
    obtain ⟨hstrip, hsame⟩ := hhas k hk hopens
    refine ⟨hstrip, hsame, fun members hmember => ?_⟩
    obtain ⟨l, hread⟩ := hstrip.reads
    rw [Tool.get_perform hmember hsource hread]
  · rintro s r rfl hposts hstatus
    obtain ⟨title, w, n, hwrite, hrespond⟩ := respond_write hposts hstatus
    obtain ⟨hname, hhas⟩ := Memory.has_of_write hauthored hsource hwrite
    rw [hrespond, ← hname]
    refine ⟨w.chunks, (Memory.write_count hwrite).2, rfl, .inl (Memory.write_opened hwrite), ?_⟩
    intro k hk hopens
    obtain ⟨hstrip, hsame⟩ := hhas k.memory hk hopens
    rw [hname]
    exact ⟨has_of_memory hstrip hstripped, has_of_memory hsame hgiven⟩

private def pot : Memory := .blank 6 2

private def poured : Except Fault Written × Memory :=
  (Memory.write "green tea" (some " A ") .null).perform pot

private theorem exists_poured :
    ∃ w, (Memory.write "green tea" (some " A ") .null).perform pot = (.ok w, poured.2) := by
  obtain ⟨w, hw⟩ := Store.exists_of_isOk (r := poured.1) (by decide +kernel)
  exact ⟨w, Prod.ext hw rfl⟩

private def order : Request :=
  ⟨"POST", ⟨"/api/v1/memory/write", []⟩, ⟨"application/json",
    Text.Utf8.encode "\x7b\"content\": \"green tea\", \"source\": \" A \"\x7d"⟩, none⟩

private def house : Service := ⟨⟨"", "", 50⟩, pot⟩

private def textMember? (key : String) : Except Response (Option Json) → Option String
  | .ok (some (.object members)) =>
    match members.lookup key with
    | some (.string text) => some text
    | _ => none
  | _ => none

private theorem posts_order : order.Posts "green tea" " A " := by
  have hcontent : textMember? "content" (bodyValue order.content) = some "green tea" := by
    decide +kernel
  have hsource : textMember? "source" (bodyValue order.content) = some " A " := by decide +kernel
  refine ⟨by decide +kernel, rfl, ?_⟩
  unfold textMember? at hcontent hsource
  split at hcontent
  · rename_i members hbody
    rw [hbody] at hsource
    refine ⟨members, hbody, ?_, ?_⟩
    · grind
    · grind
  · cases hcontent

theorem found_under_stripped_name_of_tea :
    Text.isBlankText " A " = false ∧
      (∃ w n, (Memory.write "green tea" (some " A ") .null).perform pot = (.ok w, n) ∧
        n.Has "A" (some "green tea") w.chunks ∧ n.Has " A " none 0) ∧
      order.Posts "green tea" " A " ∧ (respond order house).1.status = 200 ∧
      ∃ count, (respond order house).2.Has "A" (some "green tea") count ∧
        (respond order house).2.Has " A " none 0 := by
  have hfilled : Text.isBlankText " A " = false := by decide +kernel
  have hstrip : Text.strip " A " = "A" := by decide +kernel
  have hblanks : "A" ≠ " A " := by decide
  have hstatus : (respond order house).1.status = 200 := by decide +kernel
  have hblank : Medium.blank.table = Table.empty := rfl
  obtain ⟨hmemory, hservice⟩ :=
    found_under_stripped_name hblank [] (m := pot) rfl hfilled "green tea"
  simp only [hstrip, if_neg hblanks] at hmemory hservice
  refine ⟨hfilled, ?_, posts_order, hstatus, ?_⟩
  · obtain ⟨w, hw⟩ := exists_poured
    obtain ⟨-, -, hopens, hhas⟩ := hmemory _ _ _ hw
    obtain ⟨hstripped, hgiven, -⟩ := hhas poured.2 rfl hopens
    exact ⟨w, poured.2, hw, hstripped, hgiven⟩
  · obtain ⟨count, -, -, hopens, hhas⟩ := hservice house order rfl posts_order hstatus
    exact ⟨count, hhas (respond order house).2 rfl hopens⟩

theorem not_found_under_given_name :
    Text.isBlankText " A " = false ∧
      ∃ w n, (Memory.write "green tea" (some " A ") .null).perform pot = (.ok w, n) ∧
        ((Memory.read " A ").perform n).1.toOption = some none ∧
        ((Memory.delete " A ").perform n).1.toOption = some 0 ∧ w.chunks ≠ 0 := by
  obtain ⟨w, hw⟩ := exists_poured
  have hcount : poured.1.toOption.map Written.chunks ≠ some 0 := by decide +kernel
  rw [show poured.1 = .ok w from congrArg Prod.fst hw] at hcount
  refine ⟨by decide +kernel, w, poured.2, hw, by decide +kernel, by decide +kernel, ?_⟩
  exact fun hzero => hcount (congrArg some hzero)

end Service
end TextMemory.Web
