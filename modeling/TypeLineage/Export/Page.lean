import TypeLineage.Export.Payload

/-!
The graph as a page of its own that lists types, fields and links. The page carries the graph and
its settings as data blocks. A block must not hold `</`, which would end it, so the slash is escaped
there.
-/

namespace TypeLineage

namespace Page

/-- The lines before the graph data; the last one goes on with it. -/
def opening : List String :=
  ["<!doctype html>",
   "<html>",
   "<head>",
   "  <meta charset=\"utf-8\" />",
   "  <title>TypeGraph Export</title>",
   "  <style>",
   "    body \x7b font-family: ui-monospace, SFMono-Regular, Menlo, monospace; margin: 20px; \x7d",
   "    #container \x7b display: grid; grid-template-columns: 1fr 1fr; gap: 18px; \x7d",
   "    .panel \x7b border: 1px solid #ddd; border-radius: 8px; padding: 10px; \x7d",
   "    ul \x7b list-style: none; padding: 0; margin: 0; \x7d",
   "    li \x7b margin: 4px 0; \x7d",
   "    .props \x7b color: #777; font-size: 12px; padding-left: 16px; \x7d",
   "  </style>",
   "</head>",
   "<body>",
   "  <h1>TypeGraph Export</h1>",
   "  <div id=\"container\">",
   "    <div class=\"panel\">",
   "      <h2>Types</h2>",
   "      <ul id=\"nodes\"></ul>",
   "    </div>",
   "    <div class=\"panel\">",
   "      <h2>Links</h2>",
   "      <ul id=\"links\"></ul>",
   "    </div>",
   "  </div>",
   "  <script type=\"application/json\" id=\"graph-data\">"]

/-- The lines between the graph data and the settings. -/
def middle : List String :=
  ["</script>",
   "  <script type=\"application/json\" id=\"graph-settings\">"]

/-- The lines after the settings. -/
def closing : List String :=
  ["</script>",
   "  <script>",
   "    const graph = JSON.parse(document.getElementById('graph-data').textContent);",
   "    const settings = JSON.parse(document.getElementById('graph-settings').textContent);",
   "    const nodesEl = document.getElementById('nodes');",
   "    const linksEl = document.getElementById('links');",
   "    graph.nodes.forEach(n => \x7b",
   "      const li = document.createElement('li');",
   "      li.style.paddingLeft = (n.depth * 16) + 'px';",
   "      li.style.fontSize = settings.nodeSize === 'uniform'",
   "        ? '14px'",
   "        : (12 + Math.min(n.properties.length, 12)) + 'px';",
   "      li.textContent = `$\x7bn.name\x7d  $\x7bn.location.fileName\x7d:$\x7bn.location.line\x7d`;",
   "      const props = document.createElement('div');",
   "      props.className = 'props';",
   "      props.textContent = n.properties",
   "        .map(p => `$\x7bp.name\x7d$\x7bp.optional ? '?' : ''\x7d: $\x7bp.type\x7d`)",
   "        .join('; ');",
   "      li.appendChild(props);",
   "      nodesEl.appendChild(li);",
   "    \x7d);",
   "    graph.links.forEach(l => \x7b",
   "      const li = document.createElement('li');",
   "      li.textContent = `$\x7bl.source\x7d --> $\x7bl.target\x7d`;",
   "      linksEl.appendChild(li);",
   "    \x7d);",
   "  </script>",
   "</body>",
   "</html>",
   ""]

/-- Writes a backslash before a slash that follows a less-than sign. -/
def guardEnd (s : List Char) : List Char :=
  s.foldr
    (fun c rest => if c = '<' ∧ rest.head? = some '/' then '<' :: '\\' :: rest else c :: rest) []

def settings (nodeSize : String) : Json :=
  .object [("nodeSize", .string nodeSize)]

def joined (ls : List String) : List Char :=
  Text.unlines (ls.map String.toList)

def render (data settings : Json) : List Char :=
  joined opening ++ guardEnd data.compact ++ joined middle ++ guardEnd settings.compact ++
    joined closing

end Page

/-- The exported page of the focused graph. -/
def Graph.pageExport (g : Graph) (focusText : String) (nodeSize : String) : List Char :=
  Page.render (g.focus focusText).payload (Page.settings nodeSize)

end TypeLineage
