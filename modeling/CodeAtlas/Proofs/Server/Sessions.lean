import CodeAtlas.Program
import CodeAtlas.Proofs.Json.UniqueKeys
import CodeAtlas.Proofs.Server.CallArguments
import CodeAtlas.Python.Recovery

/-!
# Each request of a session is answered by itself

Once the client is introduced the replies of a session are those to its lines one by one
(`serveFrom_introduced`), so no request has a part in the answer to another, and none is answered
otherwise than as the only request of a session. The answer itself is right by what is offered: the
catalogue has the tools that can be called, a call of one of them whose arguments decode gets what
the tool returns as one text, and any other gets the result or the error of a failure
(`answer_serves`). The names that are announced are another matter: they are those of the tools
turned on (`answer_listTools_and_announced`).
-/

namespace CodeAtlas

/-! ### Requests about tools -/

namespace Tool

theorem mem_byName (t : Tool) : t ∈ byName := by
  cases t <;> decide

theorem ofName?_name (t : Tool) : ofName? t.name = some t := by
  cases t <;> decide +kernel

theorem name_inj {t t' : Tool} (h : t.name = t'.name) : t = t' := by
  have hsome := ofName?_name t
  rw [h, ofName?_name] at hsome
  exact (Option.some.inj hsome).symm

theorem name_of_ofName? {s : Text} {t : Tool} (h : ofName? s = some t) : t.name = s := by
  have hname := List.find?_some h
  exact eq_of_beq hname

theorem ofName?_eq_none_iff {s : Text} : ofName? s = none ↔ ∀ t ∈ byName, t.name ≠ s := by
  constructor
  · rintro h t - rfl
    rw [ofName?_name] at h
    cases h
  · intro h
    refine List.find?_eq_none.mpr fun t _ hs => ?_
    exact h t (mem_byName t) (eq_of_beq hs)

end Tool

/-- Whether a request asks for the tools or calls one. When the parameters of a call do not fit, the
method counts as unknown. -/
def Request.ConcernsTools : Request → Prop
  | .listTools | .callTool _ _ | .unknown _ => True
  | .introduce _ | .ping | .listNothing _ => False

theorem Request.call?_arguments {params : Json} {name : Text} {ms : List (Text × Json)}
    (h : call? params = some (.callTool name ms)) :
    ms = [] ∨ params.field? "arguments" = some (.obj ms) := by
  unfold call? at h
  split at h
  all_goals cases h
  · exact .inl rfl
  · exact .inl rfl
  · next harguments => exact .inr harguments

theorem Request.ofMethod_eq_callTool {method name : Text} {params : Json}
    {ms : List (Text × Json)} (h : ofMethod method params = .callTool name ms) :
    call? params = some (.callTool name ms) := by
  unfold ofMethod at h
  split_ifs at h
  · cases hcall : call? params with
    | none =>
      rw [hcall] at h
      cases h
    | some request =>
      rw [hcall] at h
      exact congrArg some h
  · unfold introduction? at h
    split at h
    all_goals cases h

/-- The arguments of a call that is read have no key twice. -/
theorem Message.nodup_arguments {line name : Text} {id : Option Json} {ms : List (Text × Json)}
    (h : ofLine? line = some ⟨id, .callTool name ms⟩) : (ms.map Prod.fst).Nodup := by
  obtain ⟨v, hv, hm⟩ := Option.bind_eq_some_iff.mp h
  have hkeys := Json.parse?_hasUniqueKeys hv
  unfold ofJson? at hm
  split at hm
  · next method hmethod =>
    have hcall := Request.ofMethod_eq_callTool (congrArg request (Option.some.inj hm))
    rcases Request.call?_arguments hcall with rfl | hms
    · exact List.nodup_nil
    · cases hparams : v.field? "params" with
      | none =>
        rw [hparams] at hms
        cases hms
      | some params =>
        rw [hparams] at hms
        exact ((hkeys.field? hparams).field? hms).nodup
  · cases hm

/-! ### Answers -/

/-- The line of the answer to the request with an id. -/
def Answer.line (id : Json) : Answer → Text
  | .result value =>
    Json.render (.ofMembers [("jsonrpc", .ofString "2.0"), ("id", id), ("result", value)])
  | .error code message =>
    Json.render (.ofMembers [("jsonrpc", .ofString "2.0"), ("id", id),
      ("error", .ofMembers [("code", .num (.int code)), ("message", .str message)])])

theorem Message.reply?_eq (d : Disk) (r : Python.Reader) (m : Message) :
    m.reply? d r = m.id.map fun id => (d.answer r m.request).line id := by
  rw [reply?]
  cases d.answer r m.request <;> rfl

/-- Whether an answer serves a request about tools, for a server that offers the given ones. -/
inductive Serves (offered : List Tool) (d : Disk) (r : Python.Reader) :
    Request → Answer → Prop where
  /-- The list has the tools offered. -/
  | list : Serves offered d r .listTools
      (.result (.ofMembers [("tools", .arr (offered.map Tool.toJson))]))
  /-- A string that a tool returns is the text of the result. -/
  | text {tool : Tool} {ms : List (Text × Json)} {call : ToolCall} {s : Text}
    (htool : tool ∈ offered) (hcall : ToolCall.AsksFor ms tool call)
    (hrun : call.run d r = .str s) :
    Serves offered d r (.callTool tool.name ms) (.ofToolText false s)
  /-- Of anything else that a tool returns the compact form is the text of the result. -/
  | value {tool : Tool} {ms : List (Text × Json)} {call : ToolCall} (htool : tool ∈ offered)
    (hcall : ToolCall.AsksFor ms tool call) (hrun : ∀ s, call.run d r ≠ .str s) :
    Serves offered d r (.callTool tool.name ms) (.ofToolText false (Json.render (call.run d r)))
  /-- The result for arguments that do not decode is marked as an error. -/
  | fault {tool : Tool} {ms : List (Text × Json)} {why : Text} (htool : tool ∈ offered)
    (hnone : ∀ call, ¬ ToolCall.AsksFor ms tool call) :
    Serves offered d r (.callTool tool.name ms) (.ofToolText true why)
  /-- The call of a tool that is not offered is an error. -/
  | noTool {name : Text} {ms : List (Text × Json)} {code : Int} {why : Text}
    (hnone : ∀ tool ∈ offered, tool.name ≠ name) :
    Serves offered d r (.callTool name ms) (.error code why)
  /-- A method that is not known, or whose parameters do not fit, is an error. -/
  | noMethod {method : Text} {code : Int} {why : Text} :
    Serves offered d r (.unknown method) (.error code why)

theorem answer_serves (d : Disk) (r : Python.Reader) {request : Request}
    (h : request.ConcernsTools)
    (hkeys : ∀ name ms, request = .callTool name ms → (ms.map Prod.fst).Nodup) :
    Serves Tool.byName d r request (d.answer r request) := by
  cases request with
  | introduce version | ping | listNothing what => exact absurd h id
  | listTools => exact .list
  | unknown method => exact .noMethod
  | callTool name ms =>
    have hms := hkeys name ms rfl
    rw [Disk.answer, Answer.ofCall]
    cases htool : Tool.ofName? name with
    | none => exact .noTool (Tool.ofName?_eq_none_iff.mp htool)
    | some tool =>
      obtain rfl := Tool.name_of_ofName? htool
      cases hdecode : ToolCall.decode tool ms with
      | error e =>
        simp only [hdecode]
        refine .fault (Tool.mem_byName tool) fun call hcall => ?_
        rw [(ToolCall.decode_eq_ok_iff hms).mpr hcall] at hdecode
        cases hdecode
      | ok call =>
        have hcall := (ToolCall.decode_eq_ok_iff hms).mp hdecode
        simp only [hdecode]
        unfold Answer.toolText
        split
        · next s hrun => exact .text (Tool.mem_byName tool) hcall hrun
        · next hrun => exact .value (Tool.mem_byName tool) hcall hrun

/-- The catalogue has all tools; the names announced are, in its order, those of the tools turned
on. -/
theorem answer_listTools_and_announced (d : Disk) (r : Python.Reader) (s : ToolSet) :
    ∃ listed : List Tool,
      d.answer r .listTools =
        .result (.ofMembers [("tools", .arr (listed.map Tool.toJson))]) ∧
      (∀ tool, tool ∈ listed) ∧ s.announced.Sublist (listed.map Tool.name) ∧
      ∀ tool, tool.name ∈ s.announced ↔ tool ∈ s.enabled := by
  refine ⟨Tool.byName, rfl, Tool.mem_byName, List.filter_sublist.map Tool.name, fun tool => ?_⟩
  rw [ToolSet.mem_enabled_iff, ToolSet.announced, List.mem_map]
  constructor
  · rintro ⟨tool', htool', hname⟩
    obtain rfl := Tool.name_inj hname
    exact (List.mem_filter.mp htool').2
  · exact fun h => ⟨tool, List.mem_filter.mpr ⟨tool.mem_byName, h⟩, rfl⟩

/-- Nothing else serves a call whose arguments decode than what the tool returns. -/
theorem Serves.eq_of_asksFor {offered : List Tool} {d : Disk} {r : Python.Reader} {tool : Tool}
    {call : ToolCall} {ms : List (Text × Json)} {answer : Answer}
    (h : Serves offered d r (.callTool tool.name ms) answer) (htool : tool ∈ offered)
    (hkeys : (ms.map Prod.fst).Nodup) (hcall : ToolCall.AsksFor ms tool call) :
    answer = .ofToolText false (Answer.toolText (call.run d r)) := by
  have hunique {tool' : Tool} {call' : ToolCall} (hname : tool.name = tool'.name)
      (hcall' : ToolCall.AsksFor ms tool' call') : call' = call := by
    obtain rfl := Tool.name_inj hname
    have hdecode := (ToolCall.decode_eq_ok_iff hkeys).mpr hcall
    rw [(ToolCall.decode_eq_ok_iff hkeys).mpr hcall'] at hdecode
    exact Except.ok.inj hdecode
  generalize hrequest : Request.callTool tool.name ms = request at h
  cases h with
  | list | noMethod => cases hrequest
  | text _ hcall' hrun =>
    obtain ⟨hname, rfl⟩ := Request.callTool.inj hrequest
    rw [← hunique hname hcall', hrun, Answer.toolText]
  | value _ hcall' hrun =>
    obtain ⟨hname, rfl⟩ := Request.callTool.inj hrequest
    rw [← hunique hname hcall', Answer.toolText]
    exact hrun
  | fault _ hnone =>
    obtain ⟨hname, rfl⟩ := Request.callTool.inj hrequest
    obtain rfl := Tool.name_inj hname
    exact absurd hcall (hnone call)
  | noTool hnone =>
    obtain ⟨rfl, rfl⟩ := Request.callTool.inj hrequest
    exact absurd rfl (hnone tool htool)

/-! ### Sessions -/

namespace Disk

variable {d d' : Disk} {r : Python.Reader} {date first : Text} {env : Environment}
  {args : List Text}

/-- The reply to a line of a client that is introduced. -/
def replyTo? (d : Disk) (r : Python.Reader) (line : Text) : Option Text :=
  (Message.ofLine? line).bind (·.reply? d r)

/-- Once the client is introduced the replies are those to the lines one by one. -/
theorem serveFrom_introduced (d : Disk) (r : Python.Reader) (lines : List Text) :
    d.serveFrom r true lines = .ok (lines.filterMap (d.replyTo? r)) := by
  induction lines with
  | nil => rfl
  | cons line lines ih =>
    rw [serveFrom, hear, List.filterMap_cons, replyTo?]
    cases Message.ofLine? line with
    | none =>
      simp only [ih]
      rfl
    | some m =>
      simp only [Bool.true_or, if_true, ih, Option.bind_some]
      cases m.reply? d r <;> rfl

/-- A first message that asks for an introduction gets one. -/
theorem serve_introduces (h : (Message.ofLine? first).any Message.introduces = true) :
    ∃ opening, ∀ lines,
      d.serve r (first :: lines) = .ok (opening :: lines.filterMap (d.replyTo? r)) := by
  obtain ⟨m, hm, hasks⟩ := (Option.any_eq_true _ _).mp h
  obtain ⟨id, hid⟩ : ∃ id, m.id = some id := by
    unfold Message.introduces at hasks
    split at hasks
    · next id _ hid _ => exact ⟨id, hid⟩
    · cases hasks
  refine ⟨(d.answer r m.request).line id, fun lines => ?_⟩
  rw [serve, serveFrom, hear, hm]
  simp only [hasks, Bool.or_true, if_true, m.reply?_eq, hid, serveFrom_introduced]
  rfl

/-- A run that only serves goes on with the disk on which the log has started. -/
theorem prepare_eq_ok {s : Settings} (hs : Settings.resolve env args = .ok s)
    (hlist : s.listTools = false) (hlog : d.startLog s.log date = .ok d') :
    d.prepare date env args = .ok d' := by
  rw [prepare, hs]
  simp [hlist, hlog]

theorem run_introduces (hprepare : d.prepare date env args = .ok d')
    (hfirst : (Message.ofLine? first).any Message.introduces = true) :
    ∃ opening, ∀ lines, d.run r date env args (first :: lines) =
      .success d' (opening :: lines.filterMap (d'.replyTo? r)) := by
  obtain ⟨opening, hserve⟩ := serve_introduces (r := r) (d := d') hfirst
  refine ⟨opening, fun lines => ?_⟩
  rw [run, hprepare]
  simp only [hserve]

theorem replyTo?_eq (d : Disk) (r : Python.Reader) {line : Text} {id : Json} {request : Request}
    (h : Message.ofLine? line = some ⟨some id, request⟩) :
    d.replyTo? r line = some ((d.answer r request).line id) := by
  rw [replyTo?, h, Option.bind_some, Message.reply?_eq, Option.map_some]

/-- A line that asks for an introduction. -/
def introducingLine : Text :=
  ("\x7b\"id\":1,\"method\":\"initialize\"," ++
    "\"params\":\x7b\"protocolVersion\":\"2024-11-05\"\x7d\x7d").toList

theorem introduces_introducingLine :
    (Message.ofLine? introducingLine).any Message.introduces = true := by
  decide +kernel

/-- For any tools turned on there are tools that a server offers, those among them. In a session
that the client opens by asking for an introduction the replies are then those to its lines one by
one, so that each is the one which its line gets as the only line that follows; and the reply to a
request about tools is an answer that serves it. -/
theorem run_answers_each (r : Python.Reader) (tools : ToolSet) :
    ∃ offered : List Tool, offered.Nodup ∧ (∀ tool ∈ tools.enabled, tool ∈ offered) ∧
      ∀ {d d' : Disk} {date : Text} {env : Environment} {args : List Text} {s : Settings},
        Settings.resolve env args = .ok s → s.tools = tools → d.prepare date env args = .ok d' →
        ∃ alone,
          (∀ first, (Message.ofLine? first).any Message.introduces = true →
            ∃ opening, ∀ lines, d.run r date env args (first :: lines) =
              .success d' (opening :: lines.filterMap alone)) ∧
          ∀ line id request, Message.ofLine? line = some ⟨some id, request⟩ →
            request.ConcernsTools →
            ∃ answer, alone line = some (answer.line id) ∧
              Serves offered d' r request answer := by
  refine ⟨Tool.byName, by decide, fun tool _ => Tool.mem_byName tool, ?_⟩
  intro d d' date env args s _ _ hprepare
  refine ⟨d'.replyTo? r, fun first hfirst => run_introduces hprepare hfirst, ?_⟩
  intro line id request hline htools
  have hserves : Serves Tool.byName d' r request (d'.answer r request) := by
    refine answer_serves d' r htools fun name ms hcall => ?_
    subst hcall
    exact Message.nodup_arguments hline
  exact ⟨d'.answer r request, d'.replyTo?_eq r hline, hserves⟩

/-- Where one tool is turned off, a tree that is asked for twice without a depth or a format is
answered twice in the same way. -/
theorem run_answers_each_tree :
    let path := ['/', 't']
    let top : Name := ⟨Text.utf8 ['t'], by decide⟩
    let d := (empty.put [top] (.directory true true)).put
      [⟨Text.utf8 ['a'], by decide⟩, top] (.file true ByteArray.empty)
    let r := Python.Reader.standard
    let args := ["--markdown-outline=false".toList]
    let s : Settings :=
      ⟨⟨true, true, false⟩, ⟨"info".toList, .text, none, "debug".toList⟩, false⟩
    let line :=
      ("\x7b\"id\":2,\"method\":\"tools/call\",\"params\":\x7b\"name\":\"dir_tree\"," ++
        "\"arguments\":\x7b\"root_path\":\"/t\"\x7d\x7d\x7d").toList
    let id := Json.ofNat 2
    Settings.resolve [] args = .ok s ∧ d.prepare [] [] args = .ok d ∧
      (Message.ofLine? introducingLine).any Message.introduces = true ∧
      Message.ofLine? line =
        some ⟨some id, .callTool Tool.dirTree.name [("root_path".toList, .str path)]⟩ ∧
      ∃ opening, d.run r [] [] args [introducingLine, line, line] =
        .success d [opening, (Answer.ofToolText false ['a']).line id,
          (Answer.ofToolText false ['a']).line id] := by
  intro path top d r args s line id
  have hs : Settings.resolve [] args = .ok s := rfl
  have hd : d.prepare [] [] args = .ok d := prepare_eq_ok hs rfl rfl
  have hline : Message.ofLine? line =
      some ⟨some id, .callTool Tool.dirTree.name [("root_path".toList, .str path)]⟩ := by
    with_unfolding_all rfl
  obtain ⟨offered, -, henabled, hrun⟩ := run_answers_each r s.tools
  obtain ⟨alone, hsessions, hanswers⟩ := hrun hs rfl hd
  obtain ⟨opening, hlines⟩ := hsessions introducingLine introduces_introducingLine
  obtain ⟨answer, halone, hserves⟩ := hanswers line id _ hline trivial
  have htree : answer = .ofToolText false ['a'] := by
    have hdecode : ToolCall.decode .dirTree [("root_path".toList, .str path)] =
        .ok (.dirTree path 1 .text) := by cbv
    have hkeys : ([("root_path".toList, Json.str path)].map Prod.fst).Nodup := by simp
    have htext : d.dirTree path 1 .text = .str ['a'] := by cbv
    rw [hserves.eq_of_asksFor (henabled _ (by decide)) hkeys
      ((ToolCall.decode_eq_ok_iff hkeys).mp hdecode), ToolCall.run, htext, Answer.toolText]
  refine ⟨hs, hd, introduces_introducingLine, hline, opening, ?_⟩
  rw [hlines, ← htree]
  simp [halone]

/-- A tool that is turned off is listed all the same, and a call without the arguments that it needs
gets a result. -/
theorem run_lists_disabled_tool_and_answers_faulty_call :
    let r := Python.Reader.standard
    let args := ["--dir-tree=false".toList]
    let s : Settings :=
      ⟨⟨false, true, true⟩, ⟨"info".toList, .text, none, "debug".toList⟩, false⟩
    let listing := "\x7b\"id\":2,\"method\":\"tools/list\"\x7d".toList
    let call :=
      ("\x7b\"id\":3,\"method\":\"tools/call\"," ++
        "\"params\":\x7b\"name\":\"python_outline\"\x7d\x7d").toList
    Settings.resolve [] args = .ok s ∧
      Message.ofLine? listing = some ⟨some (.ofNat 2), .listTools⟩ ∧
      Message.ofLine? call = some ⟨some (.ofNat 3), .callTool Tool.pythonOutline.name []⟩ ∧
      (∃ opening why, empty.run r [] [] args [introducingLine, listing, call] = .success empty
        [opening,
          (Answer.result (.ofMembers [("tools", .arr ([Tool.dirTree, .markdownOutline,
            .pythonOutline].map Tool.toJson))])).line (.ofNat 2),
          (Answer.ofToolText true why).line (.ofNat 3)]) ∧
      Tool.dirTree ∉ s.tools.enabled ∧ ∀ c, ¬ ToolCall.AsksFor [] .pythonOutline c := by
  intro r args s listing call
  have hs : Settings.resolve [] args = .ok s := rfl
  have hprepare : empty.prepare [] [] args = .ok empty := prepare_eq_ok hs rfl rfl
  have hlisting : Message.ofLine? listing = some ⟨some (.ofNat 2), .listTools⟩ := by
    with_unfolding_all rfl
  have hcall : Message.ofLine? call =
      some ⟨some (.ofNat 3), .callTool Tool.pythonOutline.name []⟩ := by
    with_unfolding_all rfl
  refine ⟨hs, hlisting, hcall, ?_, by decide, fun c hc => ?_⟩
  · obtain ⟨opening, hlines⟩ := run_introduces (r := r) hprepare introduces_introducingLine
    have hfault : ∃ why, empty.answer r (.callTool Tool.pythonOutline.name []) =
        .ofToolText true why := ⟨_, rfl⟩
    obtain ⟨why, hfault⟩ := hfault
    refine ⟨opening, why, ?_⟩
    rw [hlines, List.filterMap_cons, empty.replyTo?_eq r hlisting, List.filterMap_cons,
      empty.replyTo?_eq r hcall, hfault]
    rfl
  · cases hc with
    | pythonOutline hpaths => cases hpaths

end Disk

end CodeAtlas
