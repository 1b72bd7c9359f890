import Talk.Lib.Files
import Talk.Lib.Utf8

/-!
# Templates

The subject and the body of a message are rendered from a pair of templates: those of a configured
file, or of a file in the data directory, or the built-in ones. The TOML crate and the template
engine are parameters, and so is what the operating system does.
-/

namespace Talk.Core

open Files

/-- `TemplateError`. -/
inductive TemplateError where
  /-- A file cannot be read. -/
  | io (error : IoError)
  /-- A file cannot be parsed, or a template not be rendered. -/
  | render (text : String)
  deriving DecidableEq

/-- `Display`. -/
def TemplateError.display : TemplateError → String
  | .io error => "io: " ++ error.display
  | .render text => "template parse/render error: " ++ text

/-- `TemplateSpec`. -/
structure TemplateSpec where
  /-- The template of the subject. -/
  subject : String
  /-- The template of the body. -/
  body : String
  deriving DecidableEq

/-- `toml::from_str`: the sections of a file by their names, or the text of the error. -/
abbrev SpecParser := String → Except String (List (String × TemplateSpec))

/-- `tera::Tera::one_off`, without escapes: a template and the values of its context, or the text of
the error. -/
abbrev Tera := String → List (String × String) → Except String String

namespace TemplateSpec

/-- The lines of the built-in body. -/
def defaultBody : List String :=
  ["<!DOCTYPE html>",
    "<html><head><meta charset=\"utf-8\"><title>Invoice</title></head>",
    "<body style=\"margin:0;padding:0;background:#f4f6f8;" ++
      "font-family:-apple-system,'Segoe UI',Roboto,Arial,sans-serif;color:#1a2027;\">",
    "  <table role=\"presentation\" width=\"100%\" cellpadding=\"0\" cellspacing=\"0\" " ++
      "style=\"padding:32px 0;\"><tr><td align=\"center\">",
    "    <table role=\"presentation\" width=\"520\" cellpadding=\"0\" cellspacing=\"0\" " ++
      "style=\"background:#ffffff;border-radius:10px;" ++
      "box-shadow:0 2px 8px rgba(26,32,39,0.08);\">",
    "      <tr><td style=\"background:#111827;padding:18px 26px;\">" ++
      "<span style=\"color:#fff;font-weight:700;\">Invoice</span></td></tr>",
    "      <tr><td style=\"padding:26px 30px;\">",
    "        <div style=\"font-size:12px;color:#6b7280;text-transform:uppercase;\">From</div>",
    "        <div style=\"font-size:18px;font-weight:700;\">" ++
      "\x7b\x7b sender_name | escape \x7d\x7d</div>",
    "        <div style=\"font-size:13px;color:#6b7280;\">" ++
      "\x7b\x7b sender_address | escape \x7d\x7d</div>",
    "        \x7b% if amount %\x7d",
    "        <div style=\"margin-top:20px;background:#f9fafb;border:1px solid #e5e7eb;" ++
      "border-radius:8px;padding:14px 18px;\">",
    "          <span style=\"color:#6b7280;\">Amount due:</span>",
    "          <span style=\"font-size:22px;font-weight:800;float:right;\">" ++
      "\x7b\x7b amount | escape \x7d\x7d ZEC</span>",
    "        </div>",
    "        \x7b% endif %\x7d",
    "        <div style=\"margin-top:18px;font-size:12px;color:#6b7280;" ++
      "text-transform:uppercase;\">Invoice</div>",
    "        <pre style=\"margin:6px 0 0;padding:12px 14px;background:#f9fafb;" ++
      "border:1px solid #e5e7eb;border-radius:8px;font-size:13px;white-space:pre-wrap;\">" ++
      "\x7b\x7b invoice | escape \x7d\x7d</pre>",
    "        <div style=\"margin-top:18px;font-size:12px;color:#9ca3af;\">" ++
      "Received \x7b\x7b received_at \x7d\x7d</div>",
    "      </td></tr>",
    "    </table>",
    "  </td></tr></table>",
    "</body></html>"]

/-- `default_invoice`. -/
def defaultInvoice : TemplateSpec :=
  ⟨"Invoice from \x7b\x7b sender_name \x7d\x7d", "\n".intercalate defaultBody⟩

/-- `load`; none when there is no such file. -/
def load (toml : SpecParser) (system : System) (disk : Disk) (path name : String) :
    Except TemplateError (Option TemplateSpec) :=
  match Files.read system disk path with
  | .error (.notFound _) => .ok none
  | .error error => .error (.io error)
  | .ok raw =>
    match Utf8.fromUtf8 raw with
    | none => .error (.io (.other "stream did not contain valid UTF-8"))
    | some text =>
      match toml text with
      | .error error => .error (.render error)
      | .ok sections =>
        match sections.lookup name with
        | none =>
          .error (.render ("template.toml " ++ path ++ " has no [" ++ name ++ "] section"))
        | some spec => .ok (some spec)

end TemplateSpec

/-- `resolve_template`, with the path of the data directory's file. -/
def resolveTemplate (toml : SpecParser) (system : System) (disk : Disk)
    (templatePath : Option String) (dataFile : String) : Except TemplateError TemplateSpec :=
  match templatePath with
  | some path =>
    match TemplateSpec.load toml system disk path "invoice" with
    | .error error => .error error
    | .ok none => .error (.render ("configured template file " ++ path ++ " not found"))
    | .ok (some spec) => .ok spec
  | none =>
    match TemplateSpec.load toml system disk dataFile "invoice" with
    | .error error => .error error
    | .ok (some spec) => .ok spec
    | .ok none => .ok TemplateSpec.defaultInvoice

/-- `TeraEngine::render`. -/
def render (tera : Tera) (template : String) (data : List (String × String)) :
    Except TemplateError String :=
  (tera template data).mapError .render

/-- The context of an invoice. -/
def invoiceContext (senderName senderAddress amount invoice receivedAt : String) :
    List (String × String) :=
  [("sender_name", senderName), ("sender_address", senderAddress), ("amount", amount),
    ("invoice", invoice), ("received_at", receivedAt)]

/-- `render_invoice`: the subject and the body. -/
def renderInvoice (tera : Tera) (spec : TemplateSpec)
    (senderName senderAddress amount invoice receivedAt : String) :
    Except TemplateError (String × String) :=
  let data := invoiceContext senderName senderAddress amount invoice receivedAt
  match render tera spec.subject data with
  | .error error => .error error
  | .ok subject =>
    match render tera spec.body data with
    | .error error => .error error
    | .ok body => .ok (subject, body)

end Talk.Core
