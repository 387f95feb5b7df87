/-
Documents to start from.

* `Template.named?`: the template of a name;
* `Template.text`: a template as text for an editor.
-/
import LivePage.Json.Writer

namespace LivePage.Template

/-- A chat: a title, and a line to type in and send. -/
def chat : Value :=
  .obj [
    ("name", .str "Chat App"),
    ("version", .str "1.0"),
    ("config", .obj [
      ("authToken", .str "demo-token"),
      ("endpoints", .obj [("send_message", .str "http://localhost:3000/send-message")]),
      ("headers", .obj [])]),
    ("root", .obj [
      ("id", .str "root"),
      ("type", .str "container"),
      ("direction", .str "column"),
      ("gap", .int 12),
      ("className", .str "max-w-2xl w-full mx-auto p-4 border rounded-lg"),
      ("children", .arr [
        .obj [
          ("id", .str "title"),
          ("type", .str "text"),
          ("text", .str "Chat"),
          ("className", .str "text-xl font-semibold")],
        .obj [
          ("id", .str "composer"),
          ("type", .str "container"),
          ("direction", .str "row"),
          ("gap", .int 8),
          ("children", .arr [
            .obj [
              ("id", .str "messageInput"),
              ("type", .str "input"),
              ("placeholder", .str "Type a message..."),
              ("className", .str "flex-1 border rounded px-3 py-2")],
            .obj [
              ("id", .str "sendBtn"),
              ("type", .str "button"),
              ("text", .str "Send"),
              ("className", .str "bg-black text-white px-4 py-2 rounded"),
              ("action", .obj [
                ("type", .str "api_call"),
                ("endpoint", .str "send_message"),
                ("method", .str "POST"),
                ("payload", .obj [
                  ("message", .obj [("component", .str "messageInput"), ("path", .str "value")])]),
                ("successMessage", .str "Message sent")])]])]])])]

/-- A contact form, which is submitted to an endpoint. -/
def contact : Value :=
  .obj [
    ("name", .str "Contact Form"),
    ("version", .str "1.0"),
    ("config", .obj [("endpoints", .obj [("submit", .str "http://localhost:3000/api/contact")])]),
    ("root", .obj [
      ("id", .str "root"),
      ("type", .str "container"),
      ("direction", .str "column"),
      ("gap", .int 10),
      ("className", .str "max-w-md w-full mx-auto p-4 border rounded-lg"),
      ("children", .arr [
        .obj [
          ("id", .str "heading"),
          ("type", .str "text"),
          ("text", .str "Contact Us"),
          ("className", .str "text-xl font-semibold")],
        .obj [("id", .str "name"), ("type", .str "input"), ("placeholder", .str "Your Name")],
        .obj [("id", .str "email"), ("type", .str "input"), ("placeholder", .str "Email")],
        .obj [("id", .str "message"), ("type", .str "input"), ("placeholder", .str "Message")],
        .obj [
          ("id", .str "submit"),
          ("type", .str "button"),
          ("text", .str "Submit"),
          ("className", .str "bg-black text-white px-4 py-2 rounded"),
          ("action", .obj [
            ("type", .str "api_call"),
            ("endpoint", .str "submit"),
            ("method", .str "POST"),
            ("payload", .obj [
              ("name", .obj [("component", .str "name"), ("path", .str "value")]),
              ("email", .obj [("component", .str "email"), ("path", .str "value")]),
              ("message", .obj [("component", .str "message"), ("path", .str "value")])])])]])])]

/-- A dashboard with a search line and a button that does nothing. -/
def dashboard : Value :=
  .obj [
    ("name", .str "Dashboard"),
    ("version", .str "1.0"),
    ("root", .obj [
      ("id", .str "root"),
      ("type", .str "container"),
      ("direction", .str "column"),
      ("gap", .int 16),
      ("className", .str "max-w-3xl w-full mx-auto p-4"),
      ("children", .arr [
        .obj [
          ("id", .str "title"),
          ("type", .str "text"),
          ("text", .str "Simple Dashboard"),
          ("className", .str "text-2xl font-bold")],
        .obj [
          ("id", .str "filters"),
          ("type", .str "container"),
          ("direction", .str "row"),
          ("gap", .int 8),
          ("children", .arr [
            .obj [
              ("id", .str "search"),
              ("type", .str "input"),
              ("placeholder", .str "Search..."),
              ("className", .str "flex-1 border rounded px-3 py-2")],
            .obj [
              ("id", .str "refresh"),
              ("type", .str "button"),
              ("text", .str "Refresh"),
              ("className", .str "px-3 py-2 border rounded")]])]])])]

/-- All templates by their names. -/
def all : Members Value := [("chat", chat), ("contact", contact), ("dashboard", dashboard)]

/-- The names of the templates, in alphabetical order. -/
def names : List String := Members.keys all

/-- The template of a name. -/
def named? (name : String) : Option Value := Members.get? all name

/-- A template as text for an editor. -/
def text (template : Value) : String := Json.indented 2 template

end LivePage.Template
