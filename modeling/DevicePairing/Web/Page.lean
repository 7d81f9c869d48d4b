/-
The page of the pad.

The page is a text with a placeholder, in whose place the cells are put,
one input element a line. Each element carries the index of its cell,
which is what the page sends back.
-/
import DevicePairing.Fault
import DevicePairing.Json.Value

namespace DevicePairing.Web

/-- Lines with a line feed between neighbours. -/
def lines (ls : List String) : Text := Text.join "\n" (ls.map Text.ofString)

/-- What stands in the place of the cells. -/
def placeholder : Text := "__CELLS__"

/-- The page before its cells. -/
def pageHead : Text :=
  lines [
    "",
    "<!doctype html>",
    "<html>",
    "<head>",
    "  <meta charset=\"utf-8\" />",
    "  <meta name=\"viewport\" content=\"width=device-width, initial-scale=1, maximum-scale=1, user-scalable=no\" />",
    "  <title>Pair device</title>",
    "  <style>",
    "    html, body \x7b",
    "      margin: 0;",
    "      padding: 0;",
    "      height: 100%;",
    "      width: 100%;",
    "      background-color: #000;",
    "      color: #fff;",
    "      font-family: -apple-system, BlinkMacSystemFont, 'SF Pro Display', system-ui, sans-serif;",
    "      display: flex;",
    "      justify-content: center;",
    "      align-items: center;",
    "    \x7d",
    "    form \x7b",
    "      display: flex;",
    "      flex-direction: column;",
    "      align-items: center;",
    "    \x7d",
    "    .cells \x7b",
    "      display: flex;",
    "      gap: 16px;",
    "      margin-bottom: 30px;",
    "    \x7d",
    "    input.cell \x7b",
    "      width: 64px;",
    "      height: 80px;",
    "      border-radius: 12px;",
    "      border: none;",
    "      font-size: 40px;",
    "      text-align: center;",
    "      color: #fff;",
    "      background: rgba(255, 255, 255, 0.15);",
    "    \x7d",
    "    button#submit \x7b",
    "      font-size: 18px;",
    "      padding: 12px 40px;",
    "      border-radius: 24px;",
    "      border: none;",
    "      color: #000;",
    "      background: #fff;",
    "      cursor: pointer;",
    "    \x7d",
    "    button#submit:disabled \x7b",
    "      background: rgba(255, 255, 255, 0.3);",
    "      cursor: default;",
    "    \x7d",
    "    .banner \x7b",
    "      display: none;",
    "      margin-top: 20px;",
    "      font-size: 16px;",
    "    \x7d",
    "    #error \x7b color: #ff6b6b; \x7d",
    "    #success \x7b color: #69db7c; \x7d",
    "  </style>",
    "</head>",
    "<body>",
    "  <form id=\"pin-form\">",
    "    <div class=\"cells\">",
    ""
  ]

/-- The page behind its cells. -/
def pageTail : Text :=
  lines [
    "",
    "    </div>",
    "    <button id=\"submit\" type=\"submit\" disabled>Pair</button>",
    "    <div id=\"error\" class=\"banner\">Pairing failed. Check the PIN and try again, or inspect the logs.</div>",
    "    <div id=\"success\" class=\"banner\">Device paired.</div>",
    "  </form>",
    "",
    "  <script>",
    "    const cells = Array.from(document.querySelectorAll('input.cell'));",
    "    const submit = document.getElementById('submit');",
    "    const error = document.getElementById('error');",
    "    const success = document.getElementById('success');",
    "",
    "    // Cell events reach the server one at a time, in the order they fired",
    "    let queue = Promise.resolve();",
    "    let pending = 0;",
    "    let shown = -1;",
    "",
    "    async function call(url, body)\x7b",
    "      const res = body === undefined ? await fetch(url) : await fetch(url, \x7b",
    "        method: 'POST', headers: \x7b'Content-Type':'application/json'\x7d,",
    "        body: JSON.stringify(body)",
    "      \x7d);",
    "      return res.json();",
    "    \x7d",
    "",
    "    function render(s)\x7b",
    "      // Skip snapshots older than one already shown, and any taken before queued events landed",
    "      if (!s || s.version < shown || pending > 0) return;",
    "      shown = s.version;",
    "      s.cells.forEach((v, i) => \x7b if (cells[i].value !== v) cells[i].value = v; \x7d);",
    "      submit.disabled = !s.submit_enabled || s.submitting;",
    "      error.style.display = s.error_visible ? 'block' : 'none';",
    "      success.style.display = s.success_visible ? 'block' : 'none';",
    "      const target = cells[s.focus];",
    "      if (target && document.activeElement !== target) target.focus();",
    "    \x7d",
    "",
    "    function send(url, body)\x7b",
    "      pending++;",
    "      queue = queue",
    "        .then(() => call(url, body))",
    "        .then(s => \x7b pending--; render(s); \x7d, () => \x7b pending--; \x7d);",
    "    \x7d",
    "",
    "    cells.forEach((cell, i) => \x7b",
    "      cell.addEventListener('input', () => \x7b",
    "        cell.value = cell.value.replace(/[^0-9]/g, '').slice(0, 1);",
    "        send('/api/cell', \x7bindex: i, value: cell.value\x7d);",
    "      \x7d);",
    "      cell.addEventListener('focus', () => \x7b",
    "        cell.select();",
    "        send('/api/focus', \x7bindex: i\x7d);",
    "      \x7d);",
    "    \x7d);",
    "",
    "    document.getElementById('pin-form').addEventListener('submit', (e) => \x7b",
    "      e.preventDefault();",
    "      if (submit.disabled) return;",
    "      submit.disabled = true;",
    "      // Waits for queued cell events but does not hold later ones back",
    "      queue",
    "        .then(() => call('/api/submit', \x7b\x7d))",
    "        .then(render, () => \x7b submit.disabled = false; \x7d)",
    "        .then(() => send('/api/status'));",
    "    \x7d);",
    "",
    "    send('/api/status');",
    "  </script>",
    "</body>",
    "</html>",
    ""
  ]

/-- The page with the placeholder for its cells. -/
def template : Text := pageHead ++ placeholder ++ pageTail

/-- The element of a cell up to its index. -/
def cellFront : Text := "      <input class=\"cell\" data-index=\""

/-- The element of a cell behind its index. -/
def cellBack : Text :=
  "\" type=\"text\" inputmode=\"numeric\" pattern=\"[0-9]\" maxlength=\"1\" autocomplete=\"off\" />"

/-- The element of one cell. -/
def cellElement (i : Nat) : Text := cellFront ++ Text.ofNat i ++ cellBack

/-- The elements of `n` cells. -/
def cellElements (n : Nat) : Text :=
  Text.join "\n" ((List.range n).map cellElement)

/-- The page with `n` cells. -/
def page (n : Nat) : Text := Text.replace placeholder (cellElements n) template

/-- The page with as many cells as a value says; below one there are none. -/
def pageFor (cellCount : Json) : Except Fault Text :=
  match cellCount.wholeNumber? with
  | some n => .ok (page n.toNat)
  | none =>
    .error ⟨.type, "'" ++ Text.ofString cellCount.kindName
      ++ "' object cannot be interpreted as an integer"⟩

end DevicePairing.Web
