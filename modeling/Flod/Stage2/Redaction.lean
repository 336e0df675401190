import Flod.Lib.Dict
import Flod.Lib.Literal

/-! The redaction of error texts. Two patterns and then the configured values are replaced one after
another in the same text. A credential is left in the result where the text prints it in a form that
is not matched, where an earlier replacement has broken the match, or where the characters of a marker
take part in it. -/

namespace Flod.Stage2
open Flod.Lib Flod.Lib.Substitution

section Model

/-- The characters that `\d` matches: of ASCII the ten digits, beyond it those of other scripts. -/
structure DecimalDigits where
  isDecimal : Char → Bool
  ascii : ∀ c : Char, c.toNat < 128 → isDecimal c = c.isDigit

/-- The set `[A-Za-z0-9_-]`. -/
def keyChar (c : Char) : Bool := c.isAlphanum || c == '_' || c == '-'

/-- A fixed beginning, a number, a separator and a key. -/
def numberedKey (d : DecimalDigits) (lead : List Char) (separator : Char) : Pattern Char :=
  .ofSegments (lead.map .one ++ [.oneOrMore d.isDecimal, .one separator] ++ [.oneOrMore keyChar]) (by simp)

def webhookPathRe (d : DecimalDigits) : Pattern Char := numberedKey d "/api/webhooks/".toList '/'

def telegramTokenRe (d : DecimalDigits) : Pattern Char := numberedKey d "bot".toList ':'

/-- What the redaction and the webhook's sender read of the alert configuration. -/
structure AlertsConfig where
  smtpAppPassword : Option (List Char)
  smtpUsername : Option (List Char)
  webhookEnabled : Bool
  webhookUrl : Option (List Char)
  webhookHeaders : Option (Dict (List Char) (List Char))

def AlertsConfig.headerValues (cfg : AlertsConfig) : List (List Char) := (cfg.webhookHeaders.map Dict.values).getD []

/-- A value that is not empty is replaced wherever it stands. -/
def replaceValue (value text : List Char) : List Char :=
  if nonempty : value ≠ [] then replace (.literal value nonempty) "REDACTED".toList text else text

def redactSecrets (d : DecimalDigits) (cfg : AlertsConfig) (text : List Char) : List Char :=
  let text := replace (webhookPathRe d) "/api/webhooks/REDACTED".toList text
  let text := replace (telegramTokenRe d) "botREDACTED".toList text
  let text := replaceValue (cfg.smtpAppPassword.getD []) text
  let text := replaceValue (cfg.smtpUsername.getD []) text
  let text := replaceValue (cfg.webhookUrl.getD []) text
  cfg.headerValues.foldl (fun text headerValue => replaceValue headerValue text) text

/-- What comes of the request: a response, or an exception with its text. -/
inductive Reply where
  | response (statusCode : Nat) (text : List Char)
  | exception (text : List Char)

/-- Whether the channel's last attempt was reported as failed, and the log. -/
structure ChannelLog where
  reportedDown : Bool
  lines : List (List Char)

def reportFailure (message : List Char) (log : ChannelLog) : ChannelLog :=
  if log.reportedDown then log else ⟨true, log.lines ++ ["[-] ".toList ++ message]⟩

def reportRecovered (log : ChannelLog) : ChannelLog :=
  if log.reportedDown then ⟨false, log.lines ++ ["[+] Webhook alerts are working again.".toList]⟩ else log

def sendWebhookAlert (d : DecimalDigits) (cfg : AlertsConfig) (reply : Reply) (log : ChannelLog) :
    (Bool × List Char) × ChannelLog :=
  if !cfg.webhookEnabled || (cfg.webhookUrl.getD []).isEmpty then
    ((false, "Webhook alerts are not enabled/configured.".toList), log)
  else match reply with
    | .response statusCode text =>
      if 300 ≤ statusCode then
        let body := redactSecrets d cfg (text.take 200)
        let err := "Webhook returned HTTP ".toList ++ (toString statusCode).toList
        ((false, err), reportFailure (err ++ ": ".toList ++ body) log)
      else ((true, []), reportRecovered log)
    | .exception text =>
      let err := redactSecrets d cfg text
      ((false, err), reportFailure ("Failed to send webhook alert: ".toList ++ err) log)

end Model

section Credentials

def afterScheme : List Char → List Char
  | ':' :: '/' :: '/' :: rest => rest
  | _ :: rest => afterScheme rest
  | [] => []

/-- The path and the query of a URL, as a request sends them. -/
def pathAndQuery (url : List Char) : List Char :=
  ((afterScheme url).dropWhile (fun c => c ≠ '/' && c ≠ '?' && c ≠ '#')).takeWhile (· ≠ '#')

/-- ASCII digits, a separator and a key. -/
def IsNumberedKey (separator : Char) (secret : List Char) : Prop :=
  ∃ number key, secret = number ++ separator :: key ∧ number ≠ [] ∧ (∀ c ∈ number, c.isDigit = true) ∧
    key ≠ [] ∧ ∀ c ∈ key, keyChar c = true

/-- What is replaced before a URL is does not touch it: the text has no match of the two patterns, and
the URL cannot overlap the password, the user name or the marker they leave. -/
structure Spared (d : DecimalDigits) (cfg : AlertsConfig) (url text : List Char) : Prop where
  path : ∀ tail ∈ text.tails, (webhookPathRe d).width tail = none
  token : ∀ tail ∈ text.tails, (telegramTokenRe d).width tail = none
  password : ∀ value ∈ cfg.smtpAppPassword, value ≠ [] → Apart url value
  username : ∀ value ∈ cfg.smtpUsername, value ≠ [] → Apart url value
  marker : Apart url "REDACTED".toList

/-- A credential that is matched wherever the text prints it: the password, the header values and the
numbered webhook paths always are, a bot token after `bot`, and another path and query where they stand
in the whole URL, nothing of which is replaced before it. -/
inductive Matched (d : DecimalDigits) (cfg : AlertsConfig) (text : List Char) : List Char → Prop
  | password {password : List Char} : cfg.smtpAppPassword = some password → Matched d cfg text password
  | header {value : List Char} : value ∈ cfg.headerValues → Matched d cfg text value
  | webhook {tail : List Char} : IsNumberedKey '/' tail →
      Apart ("/api/webhooks/".toList ++ tail) "/api/webhooks/REDACTED".toList →
      Apart ("/api/webhooks/".toList ++ tail) "botREDACTED".toList → Matched d cfg text ("/api/webhooks/".toList ++ tail)
  | token {token : List Char} : IsNumberedKey ':' token → ComesAfter "bot".toList token text →
      Apart token "/api/webhooks/REDACTED".toList → Apart token "botREDACTED".toList → Matched d cfg text token
  | path {url : List Char} : cfg.webhookUrl = some url → StandsIn url (pathAndQuery url) text → NoOverlap url text →
      Spared d cfg url text → Matched d cfg text (pathAndQuery url)

end Credentials

section Patterns

theorem isDecimal_digit (d : DecimalDigits) {c : Char} (digit : c.isDigit = true) : d.isDecimal c = true := by
  have range : c.toNat < 128 := by
    simp only [Char.isDigit, Bool.and_eq_true, decide_eq_true_eq, UInt32.le_iff_toNat_le] at digit
    have upper : c.toNat ≤ 57 := digit.2
    omega
  rw [d.ascii c range]
  exact digit

theorem keyChar_digit {c : Char} (digit : c.isDigit = true) : keyChar c = true := by
  simp [keyChar, Char.isAlphanum, digit]

/-- The pattern with its lead matches a lead, a number, the separator and a key. -/
theorem numberedKey_hits (d : DecimalDigits) (lead : List Char) {separator : Char} {secret : List Char}
    (outside : d.isDecimal separator = false) (numbered : IsNumberedKey separator secret) (more : List Char) :
    (numberedKey d lead separator).width (lead ++ secret ++ more) ≠ none := by
  obtain ⟨number, key, rfl, number_ne, digits, key_ne, keys⟩ := numbered
  have body : Matches [.oneOrMore d.isDecimal, .one separator, .oneOrMore keyChar] (number ++ separator :: (key ++ [])) :=
    .oneOrMore number_ne (fun c mem => isDecimal_digit d (digits c mem)) (.one separator (.oneOrMore key_ne keys .nil))
  rw [List.append_nil] at body
  have separated : Separated [.oneOrMore d.isDecimal, .one separator, .oneOrMore keyChar] := ⟨outside, trivial⟩
  obtain ⟨n, found, -⟩ := widthOf_longest (matches_literal body lead) (separated_literal _ separated lead) more
  refine Option.ne_none_iff_exists'.mpr ⟨n, ?_⟩
  show widthOf (lead.map .one ++ [.oneOrMore d.isDecimal, .one separator] ++ [.oneOrMore keyChar]) _ = some n
  rw [List.append_assoc]
  exact found

theorem numberedKey_greedy (d : DecimalDigits) (lead : List Char) (separator : Char) :
    Greedy (numberedKey d lead separator) keyChar := by
  intro text rest c n found rest_eq
  have taken : widthOf (lead.map .one ++ [.oneOrMore d.isDecimal, .one separator] ++ [.oneOrMore keyChar]) text = some n :=
    found
  exact greedy_ofSegments _ taken rest_eq

variable {d : DecimalDigits} {text : List Char}

/-- The text after both patterns. -/
def redactPatterns (d : DecimalDigits) (text : List Char) : List Char :=
  replace (telegramTokenRe d) "botREDACTED".toList (replace (webhookPathRe d) "/api/webhooks/REDACTED".toList text)

theorem redactPatterns_spared {cfg : AlertsConfig} {url : List Char} (spared : Spared d cfg url text) :
    redactPatterns d text = text := by
  rw [redactPatterns, replace_of_unmatched spared.path, replace_of_unmatched spared.token]

theorem webhook_gone {tail : List Char} (numbered : IsNumberedKey '/' tail)
    (apart_path : Apart ("/api/webhooks/".toList ++ tail) "/api/webhooks/REDACTED".toList)
    (apart_token : Apart ("/api/webhooks/".toList ++ tail) "botREDACTED".toList) :
    ¬ ("/api/webhooks/".toList ++ tail) <:+: redactPatterns d text := by
  intro held
  have outside : d.isDecimal '/' = false := d.ascii '/' (by decide)
  exact not_infix_replace apart_path (numberedKey_hits d _ outside numbered) (infix_of_replace apart_token held)

/-- Both patterns take all of `bot` and a token that they could take, so they do not part the two. -/
theorem token_gone {token : List Char} (numbered : IsNumberedKey ':' token)
    (led : ComesAfter "bot".toList token text) (apart_path : Apart token "/api/webhooks/REDACTED".toList)
    (apart_token : Apart token "botREDACTED".toList) : ¬ token <:+: redactPatterns d text := by
  have hits := numberedKey_hits d "bot".toList (d.ascii ':' (by decide)) numbered
  obtain ⟨number, key, token_eq, number_ne, digits, -, -⟩ := numbered
  obtain ⟨c, others, rfl⟩ := List.exists_cons_of_ne_nil number_ne
  have inSet : ∀ x ∈ "bot".toList ++ [c], keyChar x = true := by
    intro x mem
    rcases List.mem_append.mp mem with letter | last
    · have all : ∀ y ∈ "bot".toList, keyChar y = true := List.all_eq_true.mp (by decide)
      exact all x letter
    · rw [List.mem_singleton.mp last]
      exact keyChar_digit (digits c List.mem_cons_self)
  rw [List.cons_append] at token_eq
  subst token_eq
  have still := led.replaced (numberedKey_greedy d "/api/webhooks/".toList '/') inSet (by decide) apart_path
  rintro ⟨before, after, written⟩
  obtain ⟨more, reached, -⟩ := replace_reached apart_token written.symm
  obtain ⟨-, missed⟩ := still.kept (numberedKey_greedy d "bot".toList ':') inSet (by decide) reached
  apply hits more
  rw [List.append_assoc]
  exact missed

end Patterns

section Values

variable {value word text : List Char}

def replaceValues (values : List (List Char)) (text : List Char) : List Char :=
  values.foldl (fun text value => replaceValue value text) text

/-- The values in the order in which they are replaced. -/
def secretValues (cfg : AlertsConfig) : List (List Char) :=
  cfg.smtpAppPassword.getD [] :: cfg.smtpUsername.getD [] :: cfg.webhookUrl.getD [] :: cfg.headerValues

theorem redactSecrets_eq (d : DecimalDigits) (cfg : AlertsConfig) (text : List Char) :
    redactSecrets d cfg text = replaceValues (secretValues cfg) (redactPatterns d text) := rfl

theorem replaceValues_append (first second : List (List Char)) (text : List Char) :
    replaceValues (first ++ second) text = replaceValues second (replaceValues first text) := List.foldl_append

/-- What a replacement keeps of a text, every replacement of a value keeps. -/
theorem replaceValue_keeps {P : List Char → Prop} (holds : P text)
    (keeps : ∀ nonempty : value ≠ [], P (replace (.literal value nonempty) "REDACTED".toList text)) :
    P (replaceValue value text) := by
  unfold replaceValue
  split
  · next nonempty => exact keeps nonempty
  · exact holds

variable (apart : Apart word "REDACTED".toList)
include apart

theorem infix_of_replaceValues : ∀ {values : List (List Char)} {text : List Char},
    word <:+: replaceValues values text → word <:+: text
  | [], _, held => held
  | value :: values, text, held => by
    have first : word <:+: replaceValue value text := infix_of_replaceValues held
    exact replaceValue_keeps (P := fun result => word <:+: result → word <:+: text) id
      (fun _ => infix_of_replace apart) first

/-- A word is not left by the replacement of its own. -/
theorem value_gone {values : List (List Char)} (mem : word ∈ values) : ¬ word <:+: replaceValues values text := by
  obtain ⟨first, second, rfl⟩ := List.append_of_mem mem
  intro held
  rw [replaceValues_append] at held
  have own : word <:+: replaceValue word (replaceValues first text) := infix_of_replaceValues apart held
  rw [replaceValue, dif_pos apart.nonempty] at own
  exact not_infix_replace apart (width_literal apart.nonempty) own

end Values

section Results

variable {d : DecimalDigits} {cfg : AlertsConfig} {text secret : List Char}

/-- One value that cannot overlap a URL: what stands in the URL still does. -/
theorem spared_replaceValue {url part value : List Char} (marker : Apart url "REDACTED".toList)
    (apart : Apart part "REDACTED".toList) (clear : value ≠ [] → Apart url value)
    (placed : StandsIn url part text ∧ NoOverlap url text) :
    StandsIn url part (replaceValue value text) ∧ NoOverlap url (replaceValue value text) :=
  replaceValue_keeps (P := fun result => StandsIn url part result ∧ NoOverlap url result) placed fun nonempty =>
    ⟨placed.1.replaced (clear nonempty) apart, placed.2.replaced (clear nonempty) marker (by decide)⟩

theorem path_gone {url : List Char} (configured : cfg.webhookUrl = some url)
    (stands : StandsIn url (pathAndQuery url) text) (separate : NoOverlap url text) (spared : Spared d cfg url text)
    (apart : Apart (pathAndQuery url) "REDACTED".toList) : ¬ pathAndQuery url <:+: redactSecrets d cfg text := by
  have given {value : Option (List Char)} (clear : ∀ v ∈ value, v ≠ [] → Apart url v) (ne : value.getD [] ≠ []) :
      Apart url (value.getD []) := by
    cases value with
    | none => exact absurd rfl ne
    | some v => exact clear v rfl ne
  have url_ne : url ≠ [] := spared.marker.nonempty
  rw [redactSecrets_eq, redactPatterns_spared spared]
  obtain ⟨stands', separate'⟩ := spared_replaceValue spared.marker apart (given spared.username)
    (spared_replaceValue spared.marker apart (given spared.password) ⟨stands, separate⟩)
  intro held
  have early : pathAndQuery url <:+: replaceValue (cfg.webhookUrl.getD []) (replaceValue (cfg.smtpUsername.getD [])
      (replaceValue (cfg.smtpAppPassword.getD []) text)) := infix_of_replaceValues apart held
  simp only [configured, Option.getD_some] at early
  rw [replaceValue, dif_pos url_ne] at early
  exact stands'.gone separate' apart early

def asciiDigits : DecimalDigits := ⟨Char.isDigit, fun _ _ => rfl⟩

def relayConfig : AlertsConfig where
  smtpAppPassword := some "x9-k2".toList
  smtpUsername := some "hooks".toList
  webhookEnabled := true
  webhookUrl := some "https://relay.net/in?key=s3c".toList
  webhookHeaders := some ⟨[("Authorization".toList, "Bearer 7f".toList)], by decide⟩

def printedWhole : List Char := "x9-k2, Bearer 7f, /bot12:aF_3/send, /api/webhooks/12/aF-3".toList

def printedUrl : List Char := "hooks: https://relay.net/in?key=s3c".toList

/-- The text of a request that could not connect prints host and path apart. -/
def printedApart : List Char :=
  "HTTPSConnectionPool(host='relay.net', port=443): Max retries exceeded with url: /in?key=s3c".toList

/-- The URL whole, with the user name of the mail account in its host. -/
def userInHost : AlertsConfig := { relayConfig with webhookUrl := some "https://hooks.net/in?key=s3c".toList }

def printedContiguous : List Char := "Invalid response from https://hooks.net/in?key=s3c".toList

end Results

end Flod.Stage2
