/-!
# Compatibility forms without their marks

An item `image<letter/letter` gives the letters that decompose to the image once combining
marks are dropped; an image of several letters is joined by `+`. All numbers are hexadecimal
code points of Unicode 14.
-/
namespace ApiBindings.Text.Table

/-- Characters that leave nothing. -/
def mark : String :=
  "300-34e 350-36f 483-487 591-5bd 5bf 5c1-5c2 5c4-5c5 5c7 610-61a 64b-65f 670 6d6-6dc 6df-6e4
   6e7-6e8 6ea-6ed 711 730-74a 7eb-7f3 7fd 816-819 81b-823 825-827 829-82d 859-85b 898-89f
   8ca-8e1 8e3-8ff 93c 94d 951-954 9bc 9cd 9fe a3c a4d abc acd b3c b4d bcd c3c c4d c55-c56 cbc
   ccd d3b-d3c d4d dca e38-e3a e48-e4b eb8-eba ec8-ecb f18-f19 f35 f37 f39 f71-f75 f7a-f7d
   f80-f84 f86-f87 fc6 1037 1039-103a 108d 135d-135f 1714-1715 1734 17d2 17dd 18a9 1939-193b
   1a17-1a18 1a60 1a75-1a7c 1a7f 1ab0-1abd 1abf-1ace 1b34 1b44 1b6b-1b73 1baa-1bab 1be6
   1bf2-1bf3 1c37 1cd0-1cd2 1cd4-1ce0 1ce2-1ce8 1ced 1cf4 1cf8-1cf9 1dc0-1dff 20d0-20dc 20e1
   20e5-20f0 2cef-2cf1 2d7f 2de0-2dff 302a-302f 3099-309a a66f a674-a67d a69e-a69f a6f0-a6f1
   a806 a82c a8c4 a8e0-a8f1 a92b-a92d a953 a9b3 a9c0 aab0 aab2-aab4 aab7-aab8 aabe-aabf aac1
   aaf6 abed fb1e fe20-fe2f ff9e-ff9f 101fd 102e0 10376-1037a 10a0d 10a0f 10a38-10a3a 10a3f
   10ae5-10ae6 10d24-10d27 10eab-10eac 10f46-10f50 10f82-10f85 11046 11070 1107f 110b9-110ba
   11100-11102 11133-11134 11173 111c0 111ca 11235-11236 112e9-112ea 1133b-1133c 1134d
   11366-1136c 11370-11374 11442 11446 1145e 114c2-114c3 115bf-115c0 1163f 116b6-116b7 1172b
   11839-1183a 1193d-1193e 11943 119e0 11a34 11a47 11a99 11c3f 11d42 11d44-11d45 11d97
   16af0-16af4 16b30-16b36 16ff0-16ff1 1bc9e 1d165-1d169 1d16d-1d172 1d17b-1d182 1d185-1d18b
   1d1aa-1d1ad 1d242-1d244 1e000-1e006 1e008-1e018 1e01b-1e021 1e023-1e024 1e026-1e02a
   1e130-1e136 1e2ae 1e2ec-1e2ef 1e8d0-1e8d6 1e944-1e94a"

/-- Characters that leave other characters. -/
def plain : String :=
  "20<a0/a8/af/b4/b8/2d8/2d9/2da/2db/2dc/2dd/37a/384/385/1fbd/1fbf/1fc0/1fc1/1fcd/1fce/1fcf/1fdd
   20<1fde/1fdf/1fed/1fee/1ffd/1ffe/2000/2001/2002/2003/2004/2005/2006/2007/2008/2009/200a/2017
   20<202f/203e/205f/3000/309b/309c/fc5e/fc5f/fc60/fc61/fc62/fc63/fe49/fe4a/fe4b/fe4c/fe70/fe72
   20<fe74/fe76/fe78/fe7a/fe7c/fe7e/ffe3
   61<aa/e0/e1/e2/e3/e4/e5/101/103/105/1ce/1df/1e1/1fb/201/203/227/1d43/1e01/1ea1/1ea3/1ea5/1ea7
   61<1ea9/1eab/1ead/1eaf/1eb1/1eb3/1eb5/1eb7/2090/24d0/ff41/1d41a/1d44e/1d482/1d4b6/1d4ea/1d51e
   61<1d552/1d586/1d5ba/1d5ee/1d622/1d656/1d68a
   32<b2/2082/2461/ff12/1d7d0/1d7da/1d7e4/1d7ee/1d7f8/1fbf2
   33<b3/2083/2462/ff13/1d7d1/1d7db/1d7e5/1d7ef/1d7f9/1fbf3 3bc<b5/1d6cd/1d707/1d741/1d77b/1d7b5
   31<b9/2081/2460/ff11/1d7cf/1d7d9/1d7e3/1d7ed/1d7f7/1fbf1
   6f<ba/f2/f3/f4/f5/f6/14d/14f/151/1a1/1d2/1eb/1ed/20d/20f/22b/22d/22f/231/1d52/1e4d/1e4f/1e51
   6f<1e53/1ecd/1ecf/1ed1/1ed3/1ed5/1ed7/1ed9/1edb/1edd/1edf/1ee1/1ee3/2092/2134/24de/ff4f/1d428
   6f<1d45c/1d490/1d4f8/1d52c/1d560/1d594/1d5c8/1d5fc/1d630/1d664/1d698 31+2044+34<bc 31+2044+32<bd
   33+2044+34<be
   41<c0/c1/c2/c3/c4/c5/100/102/104/1cd/1de/1e0/1fa/200/202/226/1d2c/1e00/1ea0/1ea2/1ea4/1ea6/1ea8
   41<1eaa/1eac/1eae/1eb0/1eb2/1eb4/1eb6/212b/24b6/ff21/1d400/1d434/1d468/1d49c/1d4d0/1d504/1d538
   41<1d56c/1d5a0/1d5d4/1d608/1d63c/1d670/1f130
   43<c7/106/108/10a/10c/1e08/2102/212d/216d/24b8/a7f2/ff23/1d402/1d436/1d46a/1d49e/1d4d2/1d56e
   43<1d5a2/1d5d6/1d60a/1d63e/1d672/1f12b/1f132
   45<c8/c9/ca/cb/112/114/116/118/11a/204/206/228/1d31/1e14/1e16/1e18/1e1a/1e1c/1eb8/1eba/1ebc/1ebe
   45<1ec0/1ec2/1ec4/1ec6/2130/24ba/ff25/1d404/1d438/1d46c/1d4d4/1d508/1d53c/1d570/1d5a4/1d5d8
   45<1d60c/1d640/1d674/1f134
   49<cc/cd/ce/cf/128/12a/12c/12e/130/1cf/208/20a/1d35/1e2c/1e2e/1ec8/1eca/2110/2111/2160/24be/ff29
   49<1d408/1d43c/1d470/1d4d8/1d540/1d574/1d5a8/1d5dc/1d610/1d644/1d678/1f138
   4e<d1/143/145/147/1f8/1d3a/1e44/1e46/1e48/1e4a/2115/24c3/ff2e/1d40d/1d441/1d475/1d4a9/1d4dd
   4e<1d511/1d579/1d5ad/1d5e1/1d615/1d649/1d67d/1f13d
   4f<d2/d3/d4/d5/d6/14c/14e/150/1a0/1d1/1ea/1ec/20c/20e/22a/22c/22e/230/1d3c/1e4c/1e4e/1e50/1e52
   4f<1ecc/1ece/1ed0/1ed2/1ed4/1ed6/1ed8/1eda/1edc/1ede/1ee0/1ee2/24c4/ff2f/1d40e/1d442/1d476/1d4aa
   4f<1d4de/1d512/1d546/1d57a/1d5ae/1d5e2/1d616/1d64a/1d67e/1f13e
   55<d9/da/db/dc/168/16a/16c/16e/170/172/1af/1d3/1d5/1d7/1d9/1db/214/216/1d41/1e72/1e74/1e76/1e78
   55<1e7a/1ee4/1ee6/1ee8/1eea/1eec/1eee/1ef0/24ca/ff35/1d414/1d448/1d47c/1d4b0/1d4e4/1d518/1d54c
   55<1d580/1d5b4/1d5e8/1d61c/1d650/1d684/1f144
   59<dd/176/178/232/1e8e/1ef2/1ef4/1ef6/1ef8/24ce/ff39/1d418/1d44c/1d480/1d4b4/1d4e8/1d51c/1d550
   59<1d584/1d5b8/1d5ec/1d620/1d654/1d688/1f148
   63<e7/107/109/10b/10d/1d9c/1e09/217d/24d2/ff43/1d41c/1d450/1d484/1d4b8/1d4ec/1d520/1d554/1d588
   63<1d5bc/1d5f0/1d624/1d658/1d68c
   65<e8/e9/ea/eb/113/115/117/119/11b/205/207/229/1d49/1e15/1e17/1e19/1e1b/1e1d/1eb9/1ebb/1ebd/1ebf
   65<1ec1/1ec3/1ec5/1ec7/2091/212f/2147/24d4/ff45/1d41e/1d452/1d486/1d4ee/1d522/1d556/1d58a/1d5be
   65<1d5f2/1d626/1d65a/1d68e
   69<ec/ed/ee/ef/129/12b/12d/12f/1d0/209/20b/1d62/1e2d/1e2f/1ec9/1ecb/2071/2139/2148/2170/24d8
   69<ff49/1d422/1d456/1d48a/1d4be/1d4f2/1d526/1d55a/1d58e/1d5c2/1d5f6/1d62a/1d65e/1d692
   6e<f1/144/146/148/1f9/1e45/1e47/1e49/1e4b/207f/2099/24dd/ff4e/1d427/1d45b/1d48f/1d4c3/1d4f7
   6e<1d52b/1d55f/1d593/1d5c7/1d5fb/1d62f/1d663/1d697
   75<f9/fa/fb/fc/169/16b/16d/16f/171/173/1b0/1d4/1d6/1d8/1da/1dc/215/217/1d58/1d64/1e73/1e75/1e77
   75<1e79/1e7b/1ee5/1ee7/1ee9/1eeb/1eed/1eef/1ef1/24e4/ff55/1d42e/1d462/1d496/1d4ca/1d4fe/1d532
   75<1d566/1d59a/1d5ce/1d602/1d636/1d66a/1d69e
   79<fd/ff/177/233/2b8/1e8f/1e99/1ef3/1ef5/1ef7/1ef9/24e8/ff59/1d432/1d466/1d49a/1d4ce/1d502/1d536
   79<1d56a/1d59e/1d5d2/1d606/1d63a/1d66e/1d6a2
   44<10e/1d30/1e0a/1e0c/1e0e/1e10/1e12/2145/216e/24b9/ff24/1d403/1d437/1d46b/1d49f/1d4d3/1d507
   44<1d53b/1d56f/1d5a3/1d5d7/1d60b/1d63f/1d673/1f133
   64<10f/1d48/1e0b/1e0d/1e0f/1e11/1e13/2146/217e/24d3/ff44/1d41d/1d451/1d485/1d4b9/1d4ed/1d521
   64<1d555/1d589/1d5bd/1d5f1/1d625/1d659/1d68d
   47<11c/11e/120/122/1e6/1f4/1d33/1e20/24bc/ff27/1d406/1d43a/1d46e/1d4a2/1d4d6/1d50a/1d53e/1d572
   47<1d5a6/1d5da/1d60e/1d642/1d676/1f136
   67<11d/11f/121/123/1e7/1f5/1d4d/1e21/210a/24d6/ff47/1d420/1d454/1d488/1d4f0/1d524/1d558/1d58c
   67<1d5c0/1d5f4/1d628/1d65c/1d690
   48<124/21e/1d34/1e22/1e24/1e26/1e28/1e2a/210b/210c/210d/24bd/ff28/1d407/1d43b/1d46f/1d4d7/1d573
   48<1d5a7/1d5db/1d60f/1d643/1d677/1f137
   68<125/21f/2b0/1e23/1e25/1e27/1e29/1e2b/1e96/2095/210e/24d7/ff48/1d421/1d489/1d4bd/1d4f1/1d525
   68<1d559/1d58d/1d5c1/1d5f5/1d629/1d65d/1d691 49+4a<132 69+6a<133
   4a<134/1d36/24bf/ff2a/1d409/1d43d/1d471/1d4a5/1d4d9/1d50d/1d541/1d575/1d5a9/1d5dd/1d611/1d645
   4a<1d679/1f139
   6a<135/1f0/2b2/2149/24d9/2c7c/ff4a/1d423/1d457/1d48b/1d4bf/1d4f3/1d527/1d55b/1d58f/1d5c3/1d5f7
   6a<1d62b/1d65f/1d693
   4b<136/1e8/1d37/1e30/1e32/1e34/212a/24c0/ff2b/1d40a/1d43e/1d472/1d4a6/1d4da/1d50e/1d542/1d576
   4b<1d5aa/1d5de/1d612/1d646/1d67a/1f13a
   6b<137/1e9/1d4f/1e31/1e33/1e35/2096/24da/ff4b/1d424/1d458/1d48c/1d4c0/1d4f4/1d528/1d55c/1d590
   6b<1d5c4/1d5f8/1d62c/1d660/1d694
   4c<139/13b/13d/1d38/1e36/1e38/1e3a/1e3c/2112/216c/24c1/ff2c/1d40b/1d43f/1d473/1d4db/1d50f/1d543
   4c<1d577/1d5ab/1d5df/1d613/1d647/1d67b/1f13b
   6c<13a/13c/13e/2e1/1e37/1e39/1e3b/1e3d/2097/2113/217c/24db/ff4c/1d425/1d459/1d48d/1d4c1/1d4f5
   6c<1d529/1d55d/1d591/1d5c5/1d5f9/1d62d/1d661/1d695 4c+b7<13f 6c+b7<140 2bc+6e<149
   52<154/156/158/210/212/1d3f/1e58/1e5a/1e5c/1e5e/211b/211c/211d/24c7/ff32/1d411/1d445/1d479/1d4e1
   52<1d57d/1d5b1/1d5e5/1d619/1d64d/1d681/1f12c/1f141
   72<155/157/159/211/213/2b3/1d63/1e59/1e5b/1e5d/1e5f/24e1/ff52/1d42b/1d45f/1d493/1d4c7/1d4fb
   72<1d52f/1d563/1d597/1d5cb/1d5ff/1d633/1d667/1d69b
   53<15a/15c/15e/160/218/1e60/1e62/1e64/1e66/1e68/24c8/ff33/1d412/1d446/1d47a/1d4ae/1d4e2/1d516
   53<1d54a/1d57e/1d5b2/1d5e6/1d61a/1d64e/1d682/1f142
   73<15b/15d/15f/161/17f/219/2e2/1e61/1e63/1e65/1e67/1e69/1e9b/209b/24e2/ff53/1d42c/1d460/1d494
   73<1d4c8/1d4fc/1d530/1d564/1d598/1d5cc/1d600/1d634/1d668/1d69c
   54<162/164/21a/1d40/1e6a/1e6c/1e6e/1e70/24c9/ff34/1d413/1d447/1d47b/1d4af/1d4e3/1d517/1d54b
   54<1d57f/1d5b3/1d5e7/1d61b/1d64f/1d683/1f143
   74<163/165/21b/1d57/1e6b/1e6d/1e6f/1e71/1e97/209c/24e3/ff54/1d42d/1d461/1d495/1d4c9/1d4fd/1d531
   74<1d565/1d599/1d5cd/1d601/1d635/1d669/1d69d
   57<174/1d42/1e80/1e82/1e84/1e86/1e88/24cc/ff37/1d416/1d44a/1d47e/1d4b2/1d4e6/1d51a/1d54e/1d582
   57<1d5b6/1d5ea/1d61e/1d652/1d686/1f146
   77<175/2b7/1e81/1e83/1e85/1e87/1e89/1e98/24e6/ff57/1d430/1d464/1d498/1d4cc/1d500/1d534/1d568
   77<1d59c/1d5d0/1d604/1d638/1d66c/1d6a0
   5a<179/17b/17d/1e90/1e92/1e94/2124/2128/24cf/ff3a/1d419/1d44d/1d481/1d4b5/1d4e9/1d585/1d5b9
   5a<1d5ed/1d621/1d655/1d689/1f149
   7a<17a/17c/17e/1dbb/1e91/1e93/1e95/24e9/ff5a/1d433/1d467/1d49b/1d4cf/1d503/1d537/1d56b/1d59f
   7a<1d5d3/1d607/1d63b/1d66f/1d6a3 44+5a<1c4/1f1 44+7a<1c5/1f2 64+7a<1c6/1f3 4c+4a<1c7 4c+6a<1c8
   6c+6a<1c9 4e+4a<1ca 4e+6a<1cb 6e+6a<1cc c6<1e2/1fc/1d2d e6<1e3/1fd/10783 1b7<1ee 292<1ef/1dbe
   d8<1fe f8<1ff/107a2 266<2b1 279<2b4 27b<2b5 281<2b6 263<2e0
   78<2e3/1e8b/1e8d/2093/2179/24e7/ff58/1d431/1d465/1d499/1d4cd/1d501/1d535/1d569/1d59d/1d5d1/1d605
   78<1d639/1d66d/1d6a1 295<2e4 2b9<374 3b<37e/fe14/fe54/ff1b
   391<386/1f08/1f09/1f0a/1f0b/1f0c/1f0d/1f0e/1f0f/1f88/1f89/1f8a/1f8b/1f8c/1f8d/1f8e/1f8f/1fb8
   391<1fb9/1fba/1fbb/1fbc/1d6a8/1d6e2/1d71c/1d756/1d790 b7<387
   395<388/1f18/1f19/1f1a/1f1b/1f1c/1f1d/1fc8/1fc9/1d6ac/1d6e6/1d720/1d75a/1d794
   397<389/1f28/1f29/1f2a/1f2b/1f2c/1f2d/1f2e/1f2f/1f98/1f99/1f9a/1f9b/1f9c/1f9d/1f9e/1f9f/1fca
   397<1fcb/1fcc/1d6ae/1d6e8/1d722/1d75c/1d796
   399<38a/3aa/1f38/1f39/1f3a/1f3b/1f3c/1f3d/1f3e/1f3f/1fd8/1fd9/1fda/1fdb/1d6b0/1d6ea/1d724/1d75e
   399<1d798 39f<38c/1f48/1f49/1f4a/1f4b/1f4c/1f4d/1ff8/1ff9/1d6b6/1d6f0/1d72a/1d764/1d79e
   3a5<38e/3ab/3d2/3d3/3d4/1f59/1f5b/1f5d/1f5f/1fe8/1fe9/1fea/1feb/1d6bc/1d6f6/1d730/1d76a/1d7a4
   3a9<38f/1f68/1f69/1f6a/1f6b/1f6c/1f6d/1f6e/1f6f/1fa8/1fa9/1faa/1fab/1fac/1fad/1fae/1faf/1ffa
   3a9<1ffb/1ffc/2126/1d6c0/1d6fa/1d734/1d76e/1d7a8
   3b9<390/3af/3ca/1f30/1f31/1f32/1f33/1f34/1f35/1f36/1f37/1f76/1f77/1fbe/1fd0/1fd1/1fd2/1fd3/1fd6
   3b9<1fd7/1d6ca/1d704/1d73e/1d778/1d7b2
   3b1<3ac/1f00/1f01/1f02/1f03/1f04/1f05/1f06/1f07/1f70/1f71/1f80/1f81/1f82/1f83/1f84/1f85/1f86
   3b1<1f87/1fb0/1fb1/1fb2/1fb3/1fb4/1fb6/1fb7/1d6c2/1d6fc/1d736/1d770/1d7aa
   3b5<3ad/3f5/1f10/1f11/1f12/1f13/1f14/1f15/1f72/1f73/1d6c6/1d6dc/1d700/1d716/1d73a/1d750/1d774
   3b5<1d78a/1d7ae/1d7c4
   3b7<3ae/1f20/1f21/1f22/1f23/1f24/1f25/1f26/1f27/1f74/1f75/1f90/1f91/1f92/1f93/1f94/1f95/1f96
   3b7<1f97/1fc2/1fc3/1fc4/1fc6/1fc7/1d6c8/1d702/1d73c/1d776/1d7b0
   3c5<3b0/3cb/3cd/1f50/1f51/1f52/1f53/1f54/1f55/1f56/1f57/1f7a/1f7b/1fe0/1fe1/1fe2/1fe3/1fe6/1fe7
   3c5<1d6d6/1d710/1d74a/1d784/1d7be
   3bf<3cc/1f40/1f41/1f42/1f43/1f44/1f45/1f78/1f79/1d6d0/1d70a/1d744/1d77e/1d7b8
   3c9<3ce/1f60/1f61/1f62/1f63/1f64/1f65/1f66/1f67/1f7c/1f7d/1fa0/1fa1/1fa2/1fa3/1fa4/1fa5/1fa6
   3c9<1fa7/1ff2/1ff3/1ff4/1ff6/1ff7/1d6da/1d714/1d74e/1d788/1d7c2
   3b2<3d0/1d5d/1d66/1d6c3/1d6fd/1d737/1d771/1d7ab
   3b8<3d1/1dbf/1d6c9/1d6dd/1d703/1d717/1d73d/1d751/1d777/1d78b/1d7b1/1d7c5
   3c6<3d5/1d60/1d69/1d6d7/1d6df/1d711/1d719/1d74b/1d753/1d785/1d78d/1d7bf/1d7c7
   3c0<3d6/213c/1d6d1/1d6e1/1d70b/1d71b/1d745/1d755/1d77f/1d78f/1d7b9/1d7c9
   3ba<3f0/1d6cb/1d6de/1d705/1d718/1d73f/1d752/1d779/1d78c/1d7b3/1d7c6
   3c1<3f1/1d68/1fe4/1fe5/1d6d2/1d6e0/1d70c/1d71a/1d746/1d754/1d780/1d78e/1d7ba/1d7c8
   3c2<3f2/1d6d3/1d70d/1d747/1d781/1d7bb
   398<3f4/1d6af/1d6b9/1d6e9/1d6f3/1d723/1d72d/1d75d/1d767/1d797/1d7a1
   3a3<3f9/1d6ba/1d6f4/1d72e/1d768/1d7a2 415<400/401/4d6 413<403 406<407 41a<40c 418<40d/419/4e2/4e4
   423<40e/4ee/4f0/4f2 438<439/45d/4e3/4e5 435<450/451/4d7 433<453 456<457 43a<45c
   443<45e/4ef/4f1/4f3 474<476 475<477 416<4c1/4dc 436<4c2/4dd 410<4d0/4d2 430<4d1/4d3 4d8<4da
   4d9<4db 417<4de 437<4df 41e<4e6 43e<4e7 4e8<4ea 4e9<4eb 42d<4ec 44d<4ed 427<4f4 447<4f5 42b<4f8
   44b<4f9 565+582<587 627<622/623/625/fd3c/fd3d/fe81/fe82/fe83/fe84/fe87/fe88/fe8d/fe8e/1ee00/1ee80
   648<624/fe85/fe86/feed/feee/1ee05/1ee85/1eea5
   64a<626/fe89/fe8a/fe8b/fe8c/fef1/fef2/fef3/fef4/1ee09/1ee29/1ee49/1ee69/1ee89/1eea9 627+674<675
   648+674<676 6c7+674<677/fbdd 64a+674<678 6d5<6c0/fba4/fba5 6c1<6c2/fba6/fba7/fba8/fba9
   6d2<6d3/fbae/fbaf/fbb0/fbb1 928<929 930<931 933<934 915<958 916<959 917<95a 91c<95b 921<95c
   922<95d 92b<95e 92f<95f 9c7+9be<9cb 9c7+9d7<9cc 9a1<9dc 9a2<9dd 9af<9df a32<a33 a38<a36 a16<a59
   a17<a5a a1c<a5b a2b<a5e b47+b56<b48 b47+b3e<b4b b47+b57<b4c b21<b5c b22<b5d b92+bd7<b94
   bc6+bbe<bca bc7+bbe<bcb bc6+bd7<bcc c46<c48 cbf+cd5<cc0 cc6+cd5<cc7 cc6+cd6<cc8 cc6+cc2<cca
   cc6+cc2+cd5<ccb d46+d3e<d4a d47+d3e<d4b d46+d57<d4c dd9<dda dd9+dcf<ddc/ddd dd9+ddf<dde
   e4d+e32<e33 ecd+eb2<eb3 eab+e99<edc eab+ea1<edd f0b<f0c f42+fb7<f43 f4c+fb7<f4d f51+fb7<f52
   f56+fb7<f57 f5b+fb7<f5c f40+fb5<f69 fb2<f76/f77 fb3<f78/f79 f92+fb7<f93 f9c+fb7<f9d fa1+fb7<fa2
   fa6+fb7<fa7 fab+fb7<fac f90+fb5<fb9 1025+102e<1026 10dc<10fc 1b05+1b35<1b06 1b07+1b35<1b08
   1b09+1b35<1b0a 1b0b+1b35<1b0c 1b0d+1b35<1b0e 1b11+1b35<1b12 1b3a+1b35<1b3b 1b3c+1b35<1b3d
   1b3e+1b35<1b40 1b3f+1b35<1b41 1b42+1b35<1b43
   42<1d2e/1e02/1e04/1e06/212c/24b7/ff22/1d401/1d435/1d469/1d4d1/1d505/1d539/1d56d/1d5a1/1d5d5
   42<1d609/1d63d/1d671/1f131 18e<1d32
   4d<1d39/1e3e/1e40/1e42/2133/216f/24c2/ff2d/1d40c/1d440/1d474/1d4dc/1d510/1d544/1d578/1d5ac/1d5e0
   4d<1d614/1d648/1d67c/1f13c 222<1d3d
   50<1d3e/1e54/1e56/2119/24c5/ff30/1d40f/1d443/1d477/1d4ab/1d4df/1d513/1d57b/1d5af/1d5e3/1d617
   50<1d64b/1d67f/1f13f 250<1d44 251<1d45 1d02<1d46
   62<1d47/1e03/1e05/1e07/24d1/ff42/1d41b/1d44f/1d483/1d4b7/1d4eb/1d51f/1d553/1d587/1d5bb/1d5ef
   62<1d623/1d657/1d68b 259<1d4a/2094 25b<1d4b 25c<1d4c/1d9f
   6d<1d50/1e3f/1e41/1e43/2098/217f/24dc/ff4d/1d426/1d45a/1d48e/1d4c2/1d4f6/1d52a/1d55e/1d592/1d5c6
   6d<1d5fa/1d62e/1d662/1d696 14b<1d51 254<1d53 1d16<1d54 1d17<1d55
   70<1d56/1e55/1e57/209a/24df/ff50/1d429/1d45d/1d491/1d4c5/1d4f9/1d52d/1d561/1d595/1d5c9/1d5fd
   70<1d631/1d665/1d699 1d1d<1d59 26f<1d5a
   76<1d5b/1d65/1e7d/1e7f/2174/24e5/ff56/1d42f/1d463/1d497/1d4cb/1d4ff/1d533/1d567/1d59b/1d5cf
   76<1d603/1d637/1d66b/1d69f 1d25<1d5c 3b3<1d5e/1d67/213d/1d6c4/1d6fe/1d738/1d772/1d7ac
   3b4<1d5f/1d6c5/1d6ff/1d739/1d773/1d7ad 3c7<1d61/1d6a/1d6d8/1d712/1d74c/1d786/1d7c0 43d<1d78
   252<1d9b 255<1d9d f0<1d9e
   66<1da0/1e1f/24d5/ff46/1d41f/1d453/1d487/1d4bb/1d4ef/1d523/1d557/1d58b/1d5bf/1d5f3/1d627/1d65b
   66<1d68f 25f<1da1 261<1da2 265<1da3 268<1da4 269<1da5 26a<1da6 1d7b<1da7 29d<1da8 26d<1da9
   1d85<1daa 29f<1dab 271<1dac 270<1dad 272<1dae 273<1daf 274<1db0 275<1db1 278<1db2 282<1db3
   283<1db4 1ab<1db5 289<1db6 28a<1db7 1d1c<1db8 28b<1db9 28c<1dba 290<1dbc 291<1dbd
   46<1e1e/2131/24bb/a7f3/ff26/1d405/1d439/1d46d/1d4d5/1d509/1d53d/1d571/1d5a5/1d5d9/1d60d/1d641
   46<1d675/1f135
   56<1e7c/1e7e/2164/24cb/2c7d/ff36/1d415/1d449/1d47d/1d4b1/1d4e5/1d519/1d54d/1d581/1d5b5/1d5e9
   56<1d61d/1d651/1d685/1f145
   58<1e8a/1e8c/2169/24cd/ff38/1d417/1d44b/1d47f/1d4b3/1d4e7/1d51b/1d54f/1d583/1d5b7/1d5eb/1d61f
   58<1d653/1d687/1f147 61+2be<1e9a 3a1<1fec/1d6b8/1d6f2/1d72c/1d766/1d7a0 60<1fef/ff40 2010<2011
   2e<2024/fe52/ff0e 2e+2e<2025/fe30 2e+2e+2e<2026/fe19 2032+2032<2033 2032+2032+2032<2034
   2035+2035<2036 2035+2035+2035<2037 21+21<203c 3f+3f<2047 3f+21<2048 21+3f<2049
   2032+2032+2032+2032<2057 30<2070/2080/24ea/ff10/1d7ce/1d7d8/1d7e2/1d7ec/1d7f6/1fbf0
   34<2074/2084/2463/ff14/1d7d2/1d7dc/1d7e6/1d7f0/1d7fa/1fbf4
   35<2075/2085/2464/ff15/1d7d3/1d7dd/1d7e7/1d7f1/1d7fb/1fbf5
   36<2076/2086/2465/ff16/1d7d4/1d7de/1d7e8/1d7f2/1d7fc/1fbf6
   37<2077/2087/2466/ff17/1d7d5/1d7df/1d7e9/1d7f3/1d7fd/1fbf7
   38<2078/2088/2467/ff18/1d7d6/1d7e0/1d7ea/1d7f4/1d7fe/1fbf8
   39<2079/2089/2468/ff19/1d7d7/1d7e1/1d7eb/1d7f5/1d7ff/1fbf9 2b<207a/208a/fb29/fe62/ff0b
   2212<207b/208b 3d<207c/208c/2260/fe66/ff1d 28<207d/208d/fe35/fe59/ff08 29<207e/208e/fe36/fe5a/ff09
   52+73<20a8 61+2f+63<2100 61+2f+73<2101 b0+43<2103 63+2f+6f<2105 63+2f+75<2106 190<2107 b0+46<2109
   127<210f/10795 4e+6f<2116
   51<211a/24c6/a7f4/ff31/1d410/1d444/1d478/1d4ac/1d4e0/1d514/1d57c/1d5b0/1d5e4/1d618/1d64c/1d680
   51<1f140 53+4d<2120 54+45+4c<2121 54+4d<2122 5d0<2135/fb21/fb2e/fb2f/fb30 5d1<2136/fb31/fb4c
   5d2<2137/fb32 5d3<2138/fb22/fb33 46+41+58<213b 393<213e/1d6aa/1d6e4/1d71e/1d758/1d792
   3a0<213f/1d6b7/1d6f1/1d72b/1d765/1d79f 2211<2140 31+2044+37<2150 31+2044+39<2151
   31+2044+31+30<2152 31+2044+33<2153 32+2044+33<2154 31+2044+35<2155 32+2044+35<2156 33+2044+35<2157
   34+2044+35<2158 31+2044+36<2159 35+2044+36<215a 31+2044+38<215b 33+2044+38<215c 35+2044+38<215d
   37+2044+38<215e 31+2044<215f 49+49<2161 49+49+49<2162 49+56<2163 56+49<2165 56+49+49<2166
   56+49+49+49<2167 49+58<2168 58+49<216a 58+49+49<216b 69+69<2171 69+69+69<2172 69+76<2173
   76+69<2175 76+69+69<2176 76+69+69+69<2177 69+78<2178 78+69<217a 78+69+69<217b 30+2044+33<2189
   2190<219a/ffe9 2192<219b/ffeb 2194<21ae 21d0<21cd 21d4<21ce 21d2<21cf 2203<2204 2208<2209
   220b<220c 2223<2224 2225<2226 222b+222b<222c 222b+222b+222b<222d 222e+222e<222f
   222e+222e+222e<2230 223c<2241 2243<2244 2245<2247 2248<2249 2261<2262 224d<226d 3c<226e/fe64/ff1c
   3e<226f/fe65/ff1e 2264<2270 2265<2271 2272<2274 2273<2275 2276<2278 2277<2279 227a<2280 227b<2281
   2282<2284 2283<2285 2286<2288 2287<2289 22a2<22ac 22a8<22ad 22a9<22ae 22ab<22af 227c<22e0
   227d<22e1 2291<22e2 2292<22e3 22b2<22ea 22b3<22eb 22b4<22ec 22b5<22ed 3008<2329/fe3f
   3009<232a/fe40 31+30<2469 31+31<246a 31+32<246b 31+33<246c 31+34<246d 31+35<246e 31+36<246f
   31+37<2470 31+38<2471 31+39<2472 32+30<2473 28+31+29<2474 28+32+29<2475 28+33+29<2476
   28+34+29<2477 28+35+29<2478 28+36+29<2479 28+37+29<247a 28+38+29<247b 28+39+29<247c
   28+31+30+29<247d 28+31+31+29<247e 28+31+32+29<247f 28+31+33+29<2480 28+31+34+29<2481
   28+31+35+29<2482 28+31+36+29<2483 28+31+37+29<2484 28+31+38+29<2485 28+31+39+29<2486
   28+32+30+29<2487 31+2e<2488 32+2e<2489 33+2e<248a 34+2e<248b 35+2e<248c 36+2e<248d 37+2e<248e
   38+2e<248f 39+2e<2490 31+30+2e<2491 31+31+2e<2492 31+32+2e<2493 31+33+2e<2494 31+34+2e<2495
   31+35+2e<2496 31+36+2e<2497 31+37+2e<2498 31+38+2e<2499 31+39+2e<249a 32+30+2e<249b 28+61+29<249c
   28+62+29<249d 28+63+29<249e 28+64+29<249f 28+65+29<24a0 28+66+29<24a1 28+67+29<24a2 28+68+29<24a3
   28+69+29<24a4 28+6a+29<24a5 28+6b+29<24a6 28+6c+29<24a7 28+6d+29<24a8 28+6e+29<24a9 28+6f+29<24aa
   28+70+29<24ab 28+71+29<24ac 28+72+29<24ad 28+73+29<24ae 28+74+29<24af 28+75+29<24b0 28+76+29<24b1
   28+77+29<24b2 28+78+29<24b3 28+79+29<24b4 28+7a+29<24b5
   71<24e0/ff51/107a5/1d42a/1d45e/1d492/1d4c6/1d4fa/1d52e/1d562/1d596/1d5ca/1d5fe/1d632/1d666/1d69a
   222b+222b+222b+222b<2a0c 3a+3a+3d<2a74 3d+3d<2a75 3d+3d+3d<2a76 2add<2adc 2d61<2d6f 6bcd<2e9f
   9f9f<2ef3 4e00<2f00/3192/3280/1f229 4e28<2f01 4e36<2f02 4e3f<2f03 4e59<2f04/319a 4e85<2f05
   4e8c<2f06/3193/3281/1f214 4ea0<2f07 4eba<2f08/319f 513f<2f09 5165<2f0a 516b<2f0b/3287 5182<2f0c
   5196<2f0d 51ab<2f0e 51e0<2f0f 51f5<2f10/2f81d 5200<2f11 529b<2f12/f98a 52f9<2f13 5315<2f14
   531a<2f15 5338<2f16 5341<2f17/3038/3289 535c<2f18 5369<2f19 5382<2f1a 53b6<2f1b 53c8<2f1c
   53e3<2f1d 56d7<2f1e 571f<2f1f/328f 58eb<2f20 5902<2f21 590a<2f22 5915<2f23 5927<2f24
   5973<2f25/329b/f981 5b50<2f26 5b80<2f27 5bf8<2f28 5c0f<2f29 5c22<2f2a/2f875 5c38<2f2b
   5c6e<2f2c/fa3c/2f878 5c71<2f2d 5ddb<2f2e 5de5<2f2f 5df1<2f30 5dfe<2f31 5e72<2f32 5e7a<2f33
   5e7f<2f34 5ef4<2f35 5efe<2f36/2f890 5f0b<2f37 5f13<2f38 5f50<2f39 5f61<2f3a 5f73<2f3b 5fc3<2f3c
   6208<2f3d 6236<2f3e 624b<2f3f/1f210 652f<2f40 6534<2f41 6587<2f42/3246 6597<2f43 65a4<2f44
   65b9<2f45 65e0<2f46 65e5<2f47/3290 66f0<2f48 6708<2f49/328a/1f237 6728<2f4a/328d 6b20<2f4b
   6b62<2f4c 6b79<2f4d/fa95 6bb3<2f4e 6bcb<2f4f 6bd4<2f50 6bdb<2f51 6c0f<2f52 6c14<2f53
   6c34<2f54/328c 706b<2f55/328b 722a<2f56 7236<2f57 723b<2f58 723f<2f59 7247<2f5a 7259<2f5b
   725b<2f5c 72ac<2f5d 7384<2f5e 7389<2f5f 74dc<2f60 74e6<2f61 7518<2f62 751f<2f63/1f222 7528<2f64
   7530<2f65 758b<2f66 7592<2f67 7676<2f68 767d<2f69 76ae<2f6a 76bf<2f6b 76ee<2f6c 77db<2f6d
   77e2<2f6e 77f3<2f6f 793a<2f70 79b8<2f71 79be<2f72 7a74<2f73 7acb<2f74/f9f7 7af9<2f75 7c73<2f76
   7cf8<2f77 7f36<2f78 7f51<2f79 7f8a<2f7a 7fbd<2f7b/fa1e 8001<2f7c/f934 800c<2f7d 8012<2f7e
   8033<2f7f 807f<2f80 8089<2f81 81e3<2f82 81ea<2f83 81f3<2f84 81fc<2f85 820c<2f86 821b<2f87
   821f<2f88 826e<2f89 8272<2f8a 8278<2f8b 864d<2f8c 866b<2f8d 8840<2f8e 884c<2f8f/fa08
   8863<2f90/2f9c4 897e<2f91 898b<2f92/fa0a 89d2<2f93 8a00<2f94 8c37<2f95 8c46<2f96 8c55<2f97/2f9d2
   8c78<2f98 8c9d<2f99 8d64<2f9a 8d70<2f9b/1f230 8db3<2f9c 8eab<2f9d 8eca<2f9e/f902 8f9b<2f9f
   8fb0<2fa0/f971 8fb5<2fa1 9091<2fa2 9149<2fa3 91c6<2fa4 91cc<2fa5/f9e9 91d1<2fa6/328e/f90a
   9577<2fa7 9580<2fa8 961c<2fa9 96b6<2faa 96b9<2fab 96e8<2fac 9751<2fad 975e<2fae 9762<2faf
   9769<2fb0 97cb<2fb1 97ed<2fb2 97f3<2fb3 9801<2fb4 98a8<2fb5 98db<2fb6 98df<2fb7 9996<2fb8
   9999<2fb9 99ac<2fba 9aa8<2fbb 9ad8<2fbc 9adf<2fbd 9b25<2fbe 9b2f<2fbf 9b32<2fc0 9b3c<2fc1
   9b5a<2fc2 9ce5<2fc3 9e75<2fc4 9e7f<2fc5/f940 9ea5<2fc6 9ebb<2fc7/2fa15 9ec3<2fc8 9ecd<2fc9
   9ed1<2fca 9ef9<2fcb/2fa17 9efd<2fcc 9f0e<2fcd 9f13<2fce 9f20<2fcf 9f3b<2fd0/2fa1c 9f4a<2fd1
   9f52<2fd2 9f8d<2fd3/f9c4 9f9c<2fd4/f907/f908/face 9fa0<2fd5 3012<3036 5344<3039 5345<303a
   304b<304c 304d<304e 304f<3050 3051<3052 3053<3054 3055<3056 3057<3058 3059<305a 305b<305c
   305d<305e 305f<3060 3061<3062 3064<3065 3066<3067 3068<3069 306f<3070/3071 3072<3073/3074
   3075<3076/3077 3078<3079/307a 307b<307c/307d 3046<3094 309d<309e 3088+308a<309f
   30ab<30ac/32d5/ff76 30ad<30ae/32d6/ff77 30af<30b0/32d7/ff78 30b1<30b2/32d8/ff79
   30b3<30b4/32d9/ff7a 30b5<30b6/32da/ff7b/1f202 30b7<30b8/32db/ff7c 30b9<30ba/32dc/ff7d
   30bb<30bc/32dd/ff7e 30bd<30be/32de/ff7f 30bf<30c0/32df/ff80 30c1<30c2/32e0/ff81
   30c4<30c5/32e1/ff82 30c6<30c7/32e2/ff83/1f213 30c8<30c9/32e3/ff84 30cf<30d0/30d1/32e9/ff8a
   30d2<30d3/30d4/32ea/ff8b 30d5<30d6/30d7/32eb/ff8c 30d8<30d9/30da/32ec/ff8d
   30db<30dc/30dd/32ed/ff8e 30a6<30f4/32d2/ff73 30ef<30f7/32fb/ff9c 30f0<30f8/32fc 30f1<30f9/32fd
   30f2<30fa/32fe/ff66 30fd<30fe 30b3+30c8<30ff 1100<3131/3260/ffa1 1101<3132/ffa2 11aa<3133/ffa3
   1102<3134/3261/ffa4 11ac<3135/ffa5 11ad<3136/ffa6 1103<3137/3262/ffa7 1104<3138/ffa8
   1105<3139/3263/ffa9 11b0<313a/ffaa 11b1<313b/ffab 11b2<313c/ffac 11b3<313d/ffad 11b4<313e/ffae
   11b5<313f/ffaf 111a<3140/ffb0 1106<3141/3264/ffb1 1107<3142/3265/ffb2 1108<3143/ffb3
   1121<3144/ffb4 1109<3145/3266/ffb5 110a<3146/ffb6 110b<3147/3267/ffb7 110c<3148/3268/ffb8
   110d<3149/ffb9 110e<314a/3269/ffba 110f<314b/326a/ffbb 1110<314c/326b/ffbc 1111<314d/326c/ffbd
   1112<314e/326d/ffbe 1161<314f/ffc2 1162<3150/ffc3 1163<3151/ffc4 1164<3152/ffc5 1165<3153/ffc6
   1166<3154/ffc7 1167<3155/ffca 1168<3156/ffcb 1169<3157/ffcc 116a<3158/ffcd 116b<3159/ffce
   116c<315a/ffcf 116d<315b/ffd2 116e<315c/ffd3 116f<315d/ffd4 1170<315e/ffd5 1171<315f/ffd6
   1172<3160/ffd7 1173<3161/ffda 1174<3162/ffdb 1175<3163/ffdc 1160<3164/ffa0 1114<3165 1115<3166
   11c7<3167 11c8<3168 11cc<3169 11ce<316a 11d3<316b 11d7<316c 11d9<316d 111c<316e 11dd<316f
   11df<3170 111d<3171 111e<3172 1120<3173 1122<3174 1123<3175 1127<3176 1129<3177 112b<3178
   112c<3179 112d<317a 112e<317b 112f<317c 1132<317d 1136<317e 1140<317f 1147<3180 114c<3181
   11f1<3182 11f2<3183 1157<3184 1158<3185 1159<3186 1184<3187 1185<3188 1188<3189 1191<318a
   1192<318b 1194<318c 119e<318d 11a1<318e 4e09<3194/3282/1f22a 56db<3195/3283 4e0a<3196/32a4
   4e2d<3197/32a5/1f22d 4e0b<3198/32a6 7532<3199 4e19<319b 4e01<319c 5929<319d/1f217 5730<319e
   28+1100+29<3200 28+1102+29<3201 28+1103+29<3202 28+1105+29<3203 28+1106+29<3204 28+1107+29<3205
   28+1109+29<3206 28+110b+29<3207 28+110c+29<3208 28+110e+29<3209 28+110f+29<320a 28+1110+29<320b
   28+1111+29<320c 28+1112+29<320d 28+1100+1161+29<320e 28+1102+1161+29<320f 28+1103+1161+29<3210
   28+1105+1161+29<3211 28+1106+1161+29<3212 28+1107+1161+29<3213 28+1109+1161+29<3214
   28+110b+1161+29<3215 28+110c+1161+29<3216 28+110e+1161+29<3217 28+110f+1161+29<3218
   28+1110+1161+29<3219 28+1111+1161+29<321a 28+1112+1161+29<321b 28+110c+116e+29<321c
   28+110b+1169+110c+1165+11ab+29<321d 28+110b+1169+1112+116e+29<321e 28+4e00+29<3220 28+4e8c+29<3221
   28+4e09+29<3222 28+56db+29<3223 28+4e94+29<3224 28+516d+29<3225 28+4e03+29<3226 28+516b+29<3227
   28+4e5d+29<3228 28+5341+29<3229 28+6708+29<322a 28+706b+29<322b 28+6c34+29<322c 28+6728+29<322d
   28+91d1+29<322e 28+571f+29<322f 28+65e5+29<3230 28+682a+29<3231 28+6709+29<3232 28+793e+29<3233
   28+540d+29<3234 28+7279+29<3235 28+8ca1+29<3236 28+795d+29<3237 28+52b4+29<3238 28+4ee3+29<3239
   28+547c+29<323a 28+5b66+29<323b 28+76e3+29<323c 28+4f01+29<323d 28+8cc7+29<323e 28+5354+29<323f
   28+796d+29<3240 28+4f11+29<3241 28+81ea+29<3242 28+81f3+29<3243 554f<3244 5e7c<3245 7b8f<3247
   50+54+45<3250 32+31<3251 32+32<3252 32+33<3253 32+34<3254 32+35<3255 32+36<3256 32+37<3257
   32+38<3258 32+39<3259 33+30<325a 33+31<325b 33+32<325c 33+33<325d 33+34<325e 33+35<325f
   1100+1161<326e 1102+1161<326f 1103+1161<3270 1105+1161<3271 1106+1161<3272 1107+1161<3273
   1109+1161<3274 110b+1161<3275 110c+1161<3276 110e+1161<3277 110f+1161<3278 1110+1161<3279
   1111+1161<327a 1112+1161<327b 110e+1161+11b7+1100+1169<327c 110c+116e+110b+1174<327d
   110b+116e<327e 4e94<3284 516d<3285/f9d1 4e03<3286 4e5d<3288 682a<3291 6709<3292/1f236
   793e<3293/fa4c 540d<3294 7279<3295 8ca1<3296 795d<3297/fa51 52b4<3298 79d8<3299 7537<329a
   9069<329c 512a<329d 5370<329e 6ce8<329f 9805<32a0 4f11<32a1 5199<32a2 6b63<32a3 5de6<32a7/1f22c
   53f3<32a8/1f22e 533b<32a9 5b97<32aa 5b66<32ab 76e3<32ac 4f01<32ad 8cc7<32ae 5354<32af 591c<32b0
   33+36<32b1 33+37<32b2 33+38<32b3 33+39<32b4 34+30<32b5 34+31<32b6 34+32<32b7 34+33<32b8 34+34<32b9
   34+35<32ba 34+36<32bb 34+37<32bc 34+38<32bd 34+39<32be 35+30<32bf 31+6708<32c0 32+6708<32c1
   33+6708<32c2 34+6708<32c3 35+6708<32c4 36+6708<32c5 37+6708<32c6 38+6708<32c7 39+6708<32c8
   31+30+6708<32c9 31+31+6708<32ca 31+32+6708<32cb 48+67<32cc 65+72+67<32cd 65+56<32ce 4c+54+44<32cf
   30a2<32d0/ff71 30a4<32d1/ff72 30a8<32d3/ff74 30aa<32d4/ff75 30ca<32e4/ff85 30cb<32e5/ff86
   30cc<32e6/ff87 30cd<32e7/ff88 30ce<32e8/ff89 30de<32ee/ff8f 30df<32ef/ff90 30e0<32f0/ff91
   30e1<32f1/ff92 30e2<32f2/ff93 30e4<32f3/ff94 30e6<32f4/ff95 30e8<32f5/ff96 30e9<32f6/ff97
   30ea<32f7/ff98 30eb<32f8/ff99 30ec<32f9/ff9a 30ed<32fa/ff9b 4ee4+548c<32ff
   30a2+30cf+30fc+30c8<3300 30a2+30eb+30d5+30a1<3301 30a2+30f3+30d8+30a2<3302 30a2+30fc+30eb<3303
   30a4+30cb+30f3+30af<3304 30a4+30f3+30c1<3305 30a6+30a9+30f3<3306 30a8+30b9+30af+30fc+30c8<3307
   30a8+30fc+30ab+30fc<3308 30aa+30f3+30b9<3309 30aa+30fc+30e0<330a 30ab+30a4+30ea<330b
   30ab+30e9+30c3+30c8<330c 30ab+30ed+30ea+30fc<330d 30ab+30ed+30f3<330e 30ab+30f3+30de<330f
   30ad+30ab<3310 30ad+30cb+30fc<3311 30ad+30e5+30ea+30fc<3312 30ad+30eb+30bf+30fc<3313
   30ad+30ed<3314 30ad+30ed+30af+30e9+30e0<3315 30ad+30ed+30e1+30fc+30c8+30eb<3316
   30ad+30ed+30ef+30c3+30c8<3317 30af+30e9+30e0<3318 30af+30e9+30e0+30c8+30f3<3319
   30af+30eb+30bb+30a4+30ed<331a 30af+30ed+30fc+30cd<331b 30b1+30fc+30b9<331c 30b3+30eb+30ca<331d
   30b3+30fc+30db<331e 30b5+30a4+30af+30eb<331f 30b5+30f3+30c1+30fc+30e0<3320
   30b7+30ea+30f3+30af<3321 30bb+30f3+30c1<3322 30bb+30f3+30c8<3323 30bf+30fc+30b9<3324
   30c6+30b7<3325 30c8+30eb<3326 30c8+30f3<3327 30ca+30ce<3328 30ce+30c3+30c8<3329
   30cf+30a4+30c4<332a 30cf+30fc+30bb+30f3+30c8<332b 30cf+30fc+30c4<332c 30cf+30fc+30ec+30eb<332d
   30d2+30a2+30b9+30c8+30eb<332e 30d2+30af+30eb<332f 30d2+30b3<3330 30d2+30eb<3331
   30d5+30a1+30e9+30c3+30c8<3332 30d5+30a3+30fc+30c8<3333 30d5+30c3+30b7+30a7+30eb<3334
   30d5+30e9+30f3<3335 30d8+30af+30bf+30fc+30eb<3336 30d8+30bd<3337 30d8+30cb+30d2<3338
   30d8+30eb+30c4<3339 30d8+30f3+30b9<333a 30d8+30fc+30b7<333b 30d8+30fc+30bf<333c
   30db+30a4+30f3+30c8<333d 30db+30eb+30c8<333e 30db+30f3<333f 30db+30f3+30c8<3340
   30db+30fc+30eb<3341 30db+30fc+30f3<3342 30de+30a4+30af+30ed<3343 30de+30a4+30eb<3344
   30de+30c3+30cf<3345 30de+30eb+30af<3346 30de+30f3+30b7+30e7+30f3<3347 30df+30af+30ed+30f3<3348
   30df+30ea<3349 30df+30ea+30cf+30fc+30eb<334a 30e1+30ab<334b 30e1+30ab+30c8+30f3<334c
   30e1+30fc+30c8+30eb<334d 30e4+30fc+30c8<334e 30e4+30fc+30eb<334f 30e6+30a2+30f3<3350
   30ea+30c3+30c8+30eb<3351 30ea+30e9<3352 30eb+30d2+30fc<3353 30eb+30fc+30d5+30eb<3354
   30ec+30e0<3355 30ec+30f3+30c8+30b1+30f3<3356 30ef+30c3+30c8<3357 30+70b9<3358 31+70b9<3359
   32+70b9<335a 33+70b9<335b 34+70b9<335c 35+70b9<335d 36+70b9<335e 37+70b9<335f 38+70b9<3360
   39+70b9<3361 31+30+70b9<3362 31+31+70b9<3363 31+32+70b9<3364 31+33+70b9<3365 31+34+70b9<3366
   31+35+70b9<3367 31+36+70b9<3368 31+37+70b9<3369 31+38+70b9<336a 31+39+70b9<336b 32+30+70b9<336c
   32+31+70b9<336d 32+32+70b9<336e 32+33+70b9<336f 32+34+70b9<3370 68+50+61<3371 64+61<3372
   41+55<3373 62+61+72<3374 6f+56<3375 70+63<3376 64+6d<3377 64+6d+32<3378 64+6d+33<3379 49+55<337a
   5e73+6210<337b 662d+548c<337c 5927+6b63<337d 660e+6cbb<337e 682a+5f0f+4f1a+793e<337f 70+41<3380
   6e+41<3381 3bc+41<3382 6d+41<3383 6b+41<3384 4b+42<3385 4d+42<3386 47+42<3387 63+61+6c<3388
   6b+63+61+6c<3389 70+46<338a 6e+46<338b 3bc+46<338c 3bc+67<338d 6d+67<338e 6b+67<338f 48+7a<3390
   6b+48+7a<3391 4d+48+7a<3392 47+48+7a<3393 54+48+7a<3394 3bc+6c<3395 6d+6c<3396 64+6c<3397
   6b+6c<3398 66+6d<3399 6e+6d<339a 3bc+6d<339b 6d+6d<339c 63+6d<339d 6b+6d<339e 6d+6d+32<339f
   63+6d+32<33a0 6d+32<33a1 6b+6d+32<33a2 6d+6d+33<33a3 63+6d+33<33a4 6d+33<33a5 6b+6d+33<33a6
   6d+2215+73<33a7 6d+2215+73+32<33a8 50+61<33a9 6b+50+61<33aa 4d+50+61<33ab 47+50+61<33ac
   72+61+64<33ad 72+61+64+2215+73<33ae 72+61+64+2215+73+32<33af 70+73<33b0 6e+73<33b1 3bc+73<33b2
   6d+73<33b3 70+56<33b4 6e+56<33b5 3bc+56<33b6 6d+56<33b7 6b+56<33b8 4d+56<33b9/1f14b 70+57<33ba
   6e+57<33bb 3bc+57<33bc 6d+57<33bd 6b+57<33be 4d+57<33bf 6b+3a9<33c0 4d+3a9<33c1 61+2e+6d+2e<33c2
   42+71<33c3 63+63<33c4 63+64<33c5 43+2215+6b+67<33c6 43+6f+2e<33c7 64+42<33c8 47+79<33c9 68+61<33ca
   48+50<33cb 69+6e<33cc 4b+4b<33cd 4b+4d<33ce 6b+74<33cf 6c+6d<33d0 6c+6e<33d1 6c+6f+67<33d2
   6c+78<33d3 6d+62<33d4 6d+69+6c<33d5 6d+6f+6c<33d6 50+48<33d7 70+2e+6d+2e<33d8 50+50+4d<33d9
   50+52<33da 73+72<33db 53+76<33dc 57+62<33dd 56+2215+6d<33de 41+2215+6d<33df 31+65e5<33e0
   32+65e5<33e1 33+65e5<33e2 34+65e5<33e3 35+65e5<33e4 36+65e5<33e5 37+65e5<33e6 38+65e5<33e7
   39+65e5<33e8 31+30+65e5<33e9 31+31+65e5<33ea 31+32+65e5<33eb 31+33+65e5<33ec 31+34+65e5<33ed
   31+35+65e5<33ee 31+36+65e5<33ef 31+37+65e5<33f0 31+38+65e5<33f1 31+39+65e5<33f2 32+30+65e5<33f3
   32+31+65e5<33f4 32+32+65e5<33f5 32+33+65e5<33f6 32+34+65e5<33f7 32+35+65e5<33f8 32+36+65e5<33f9
   32+37+65e5<33fa 32+38+65e5<33fb 32+39+65e5<33fc 33+30+65e5<33fd 33+31+65e5<33fe 67+61+6c<33ff
   44a<a69c 44c<a69d a76f<a770 126<a7f8 153<a7f9 a727<ab5c ab37<ab5d 26b<ab5e ab52<ab5f 28d<ab69
   8c48<f900 66f4<f901 8cc8<f903 6ed1<f904 4e32<f905 53e5<f906 5951<f909 5587<f90b 5948<f90c
   61f6<f90d/2f8b1 7669<f90e 7f85<f90f 863f<f910 87ba<f911 88f8<f912 908f<f913 6a02<f914/f95c/f9bf
   6d1b<f915 70d9<f916 73de<f917 843d<f918 916a<f919 99f1<f91a 4e82<f91b 5375<f91c 6b04<f91d
   721b<f91e 862d<f91f 9e1e<f920 5d50<f921 6feb<f922 85cd<f923 8964<f924 62c9<f925 81d8<f926
   881f<f927 5eca<f928/2f88e 6717<f929/fa92/2f8d8 6d6a<f92a 72fc<f92b 90ce<f92c 4f86<f92d 51b7<f92e
   52de<f92f 64c4<f930 6ad3<f931 7210<f932 76e7<f933 8606<f935 865c<f936/2f9b4 8def<f937 9732<f938
   9b6f<f939 9dfa<f93a 788c<f93b/2f94f 797f<f93c 7da0<f93d 83c9<f93e 9304<f93f 8ad6<f941 58df<f942
   5f04<f943 7c60<f944 807e<f945 7262<f946 78ca<f947 8cc2<f948 96f7<f949 58d8<f94a 5c62<f94b
   6a13<f94c 6dda<f94d 6f0f<f94e 7d2f<f94f 7e37<f950 964b<f951 52d2<f952 808b<f953 51dc<f954
   51cc<f955 7a1c<f956 7dbe<f957 83f1<f958 9675<f959 8b80<f95a 62cf<f95b 8afe<f95d/fabd 4e39<f95e
   5be7<f95f/f9aa/2f86f 6012<f960 7387<f961/f9db 7570<f962/2f938 5317<f963/2f82b 78fb<f964 4fbf<f965
   5fa9<f966 4e0d<f967 6ccc<f968 6578<f969 7d22<f96a 53c3<f96b 585e<f96c 7701<f96d 8449<f96e
   8aaa<f96f/f9a1 6bba<f970/fa96/2f8f5 6c88<f972 62fe<f973 82e5<f974/2f998 63a0<f975 7565<f976
   4eae<f977 5169<f978 51c9<f979 6881<f97a 7ce7<f97b 826f<f97c 8ad2<f97d 91cf<f97e 52f5<f97f
   5442<f980 5eec<f982 65c5<f983 6ffe<f984 792a<f985 95ad<f986 9a6a<f987 9e97<f988 9ece<f989
   66c6<f98b 6b77<f98c 8f62<f98d 5e74<f98e 6190<f98f 6200<f990 649a<f991 6f23<f992 7149<f993
   7489<f994 79ca<f995 7df4<f996/fa57/fab0 806f<f997 8f26<f998 84ee<f999 9023<f99a 934a<f99b
   5217<f99c 52a3<f99d 54bd<f99e 70c8<f99f 88c2<f9a0 5ec9<f9a2 5ff5<f9a3 637b<f9a4 6bae<f9a5
   7c3e<f9a6 7375<f9a7 4ee4<f9a8 56f9<f9a9 5dba<f9ab 601c<f9ac 73b2<f9ad 7469<f9ae 7f9a<f9af
   8046<f9b0 9234<f9b1 96f6<f9b2 9748<f9b3 9818<f9b4 4f8b<f9b5 79ae<f9b6 91b4<f9b7 96b8<f9b8
   60e1<f9b9 4e86<f9ba 50da<f9bb 5bee<f9bc 5c3f<f9bd 6599<f9be/1f21b 71ce<f9c0 7642<f9c1 84fc<f9c2
   907c<f9c3 6688<f9c5 962e<f9c6 5289<f9c7 677b<f9c8 67f3<f9c9 6d41<f9ca/fa97/2f902 6e9c<f9cb
   7409<f9cc 7559<f9cd 786b<f9ce 7d10<f9cf 985e<f9d0 622e<f9d2 9678<f9d3 502b<f9d4 5d19<f9d5
   6dea<f9d6 8f2a<f9d7 5f8b<f9d8 6144<f9d9 6817<f9da 9686<f9dc 5229<f9dd 540f<f9de 5c65<f9df
   6613<f9e0 674e<f9e1 68a8<f9e2 6ce5<f9e3 7406<f9e4 75e2<f9e5 7f79<f9e6 88cf<f9e7 88e1<f9e8
   96e2<f9ea 533f<f9eb 6eba<f9ec 541d<f9ed 71d0<f9ee 7498<f9ef 85fa<f9f0 96a3<f9f1 9c57<f9f2
   9e9f<f9f3 6797<f9f4 6dcb<f9f5 81e8<f9f6 7b20<f9f8 7c92<f9f9 72c0<f9fa 7099<f9fb 8b58<f9fc
   4ec0<f9fd 8336<f9fe 523a<f9ff 5207<fa00/2f850 5ea6<fa01 62d3<fa02 7cd6<fa03 5b85<fa04 6d1e<fa05
   66b4<fa06 8f3b<fa07 964d<fa09 5ed3<fa0b 5140<fa0c 55c0<fa0d 585a<fa10/fa7c 6674<fa12/fa91
   51de<fa15 732a<fa16/faa0 76ca<fa17/faa6 793c<fa18 795e<fa19 7965<fa1a 798f<fa1b/2f956
   9756<fa1c/fac8 7cbe<fa1d 8612<fa20 8af8<fa22/faba 9038<fa25/fa67 90fd<fa26 98ef<fa2a 98fc<fa2b
   9928<fa2c 9db4<fa2d 90de<fa2e 96b7<fa2f 4fae<fa30/2f805 50e7<fa31/2f80a 514d<fa32/2f80e
   52c9<fa33/2f826 52e4<fa34/2f827 5351<fa35/2f82d 559d<fa36/fa78 5606<fa37/2f84c 5668<fa38 5840<fa39
   58a8<fa3a 5c64<fa3b 6094<fa3d/2f8a3 6168<fa3e 618e<fa3f/fa89/2f8ab 61f2<fa40/fa8b/2f8b0
   654f<fa41/2f8c8 65e2<fa42 6691<fa43/2f8cf 6885<fa44/2f8e2 6d77<fa45/2f901 6e1a<fa46 6f22<fa47/fa9a
   716e<fa48/fa9c 722b<fa49 7422<fa4a 7891<fa4b 7949<fa4d 7948<fa4e 7950<fa4f 7956<fa50/2f953
   798d<fa52 798e<fa53 7a40<fa54/2f959 7a81<fa55 7bc0<fa56/faad 7e09<fa58 7e41<fa59 7f72<fa5a
   8005<fa5b/fab2/2f97a 81ed<fa5c 8279<fa5d/fa5e 8457<fa5f/2f99f 8910<fa60 8996<fa61/fab8
   8b01<fa62/fabc 8b39<fa63/fabf 8cd3<fa64 8d08<fa65/fac1 8fb6<fa66 96e3<fa68/fac7 97ff<fa69/faca
   983b<fa6a/facc 6075<fa6b 242ee<fa6c 8218<fa6d 4e26<fa70 51b5<fa71/2f81b 5168<fa72 4f80<fa73
   5145<fa74 5180<fa75 52c7<fa76/2f825 52fa<fa77/2f828 5555<fa79 5599<fa7a/2f847 55e2<fa7b 58b3<fa7d
   5944<fa7e 5954<fa7f 5a62<fa80 5b28<fa81 5ed2<fa82 5ed9<fa83 5f69<fa84 5fad<fa85 60d8<fa86
   614e<fa87/2f8a8 6108<fa88 6160<fa8a 6234<fa8c 63c4<fa8d 641c<fa8e 6452<fa8f 6556<fa90
   671b<fa93/2f8d9 6756<fa94 6edb<fa98 6ecb<fa99/2f90b 701e<fa9b/2f914 77a7<fa9d 7235<fa9e/2f921
   72af<fa9f 7471<faa1/2f930 7506<faa2 753b<faa3 761d<faa4 761f<faa5 76db<faa7 76f4<faa8/2f940
   774a<faa9/2f948 7740<faaa 78cc<faab/2f950 7ab1<faac 7c7b<faae 7d5b<faaf 7f3e<fab1 8352<fab3
   83ef<fab4 8779<fab5/2f9bb 8941<fab6 8986<fab7 8abf<fab9 8acb<fabb 8aed<fabe/2f9d0 8b8a<fac0/2f9d1
   8f38<fac2/2f9df 9072<fac3 9199<fac4 9276<fac5 967c<fac6 97db<fac9 980b<facb/2f9fe/2f9ff
   9b12<facd/2fa0a 2284a<facf 22844<fad0 233d5<fad1 3b9d<fad2/2f8e7 4018<fad3 4039<fad4/2f949
   25249<fad5 25cd0<fad6 27ed3<fad7 9f43<fad8 9f8e<fad9 66+66<fb00 66+69<fb01 66+6c<fb02
   66+66+69<fb03 66+66+6c<fb04 73+74<fb05/fb06 574+576<fb13 574+565<fb14 574+56b<fb15 57e+576<fb16
   574+56d<fb17 5d9<fb1d/fb39 5f2<fb1f 5e2<fb20 5d4<fb23/fb34 5db<fb24/fb3b/fb4d 5dc<fb25/fb3c
   5dd<fb26 5e8<fb27/fb48 5ea<fb28/fb4a 5e9<fb2a/fb2b/fb2c/fb2d/fb49 5d5<fb35/fb4b 5d6<fb36 5d8<fb38
   5da<fb3a 5de<fb3e 5e0<fb40 5e1<fb41 5e3<fb43 5e4<fb44/fb4e 5e6<fb46 5e7<fb47 5d0+5dc<fb4f
   671<fb50/fb51 67b<fb52/fb53/fb54/fb55 67e<fb56/fb57/fb58/fb59 680<fb5a/fb5b/fb5c/fb5d
   67a<fb5e/fb5f/fb60/fb61 67f<fb62/fb63/fb64/fb65 679<fb66/fb67/fb68/fb69 6a4<fb6a/fb6b/fb6c/fb6d
   6a6<fb6e/fb6f/fb70/fb71 684<fb72/fb73/fb74/fb75 683<fb76/fb77/fb78/fb79 686<fb7a/fb7b/fb7c/fb7d
   687<fb7e/fb7f/fb80/fb81 68d<fb82/fb83 68c<fb84/fb85 68e<fb86/fb87 688<fb88/fb89 698<fb8a/fb8b
   691<fb8c/fb8d 6a9<fb8e/fb8f/fb90/fb91 6af<fb92/fb93/fb94/fb95 6b3<fb96/fb97/fb98/fb99
   6b1<fb9a/fb9b/fb9c/fb9d 6ba<fb9e/fb9f/1ee1d/1ee5d 6bb<fba0/fba1/fba2/fba3 6be<fbaa/fbab/fbac/fbad
   6ad<fbd3/fbd4/fbd5/fbd6 6c7<fbd7/fbd8 6c6<fbd9/fbda 6c8<fbdb/fbdc 6cb<fbde/fbdf 6c5<fbe0/fbe1
   6c9<fbe2/fbe3 6d0<fbe4/fbe5/fbe6/fbe7 649<fbe8/fbe9/fc5d/fc90/feef/fef0 64a+627<fbea/fbeb
   64a+6d5<fbec/fbed 64a+648<fbee/fbef 64a+6c7<fbf0/fbf1 64a+6c6<fbf2/fbf3 64a+6c8<fbf4/fbf5
   64a+6d0<fbf6/fbf7/fbf8 64a+649<fbf9/fbfa/fbfb/fc03/fc59/fc68/fc95 6cc<fbfc/fbfd/fbfe/fbff
   64a+62c<fc00/fc55/fc97/fcda 64a+62d<fc01/fc56/fc98/fcdb
   64a+645<fc02/fc58/fc66/fc93/fc9a/fcdd/fcdf/fcf0 64a+64a<fc04/fc5a/fc69/fc96 628+62c<fc05/fc9c
   628+62d<fc06/fc9d 628+62e<fc07/fc9e 628+645<fc08/fc6c/fc9f/fce1 628+649<fc09/fc6e
   628+64a<fc0a/fc6f 62a+62c<fc0b/fca1 62a+62d<fc0c/fca2 62a+62e<fc0d/fca3
   62a+645<fc0e/fc72/fca4/fce3 62a+649<fc0f/fc74 62a+64a<fc10/fc75 62b+62c<fc11
   62b+645<fc12/fc78/fca6/fce5 62b+649<fc13/fc7a 62b+64a<fc14/fc7b 62c+62d<fc15/fca7
   62c+645<fc16/fca8 62d+62c<fc17/fca9 62d+645<fc18/fcaa 62e+62c<fc19/fcab 62e+62d<fc1a
   62e+645<fc1b/fcac 633+62c<fc1c/fcad/fd34 633+62d<fc1d/fcae/fd35 633+62e<fc1e/fcaf/fd36
   633+645<fc1f/fcb0/fce7 635+62d<fc20/fcb1 635+645<fc21/fcb3 636+62c<fc22/fcb4 636+62d<fc23/fcb5
   636+62e<fc24/fcb6 636+645<fc25/fcb7 637+62d<fc26/fcb8 637+645<fc27/fd33/fd3a
   638+645<fc28/fcb9/fd3b 639+62c<fc29/fcba 639+645<fc2a/fcbb 63a+62c<fc2b/fcbc 63a+645<fc2c/fcbd
   641+62c<fc2d/fcbe 641+62d<fc2e/fcbf 641+62e<fc2f/fcc0 641+645<fc30/fcc1 641+649<fc31/fc7c
   641+64a<fc32/fc7d 642+62d<fc33/fcc2 642+645<fc34/fcc3 642+649<fc35/fc7e 642+64a<fc36/fc7f
   643+627<fc37/fc80 643+62c<fc38/fcc4 643+62d<fc39/fcc5 643+62e<fc3a/fcc6
   643+644<fc3b/fc81/fcc7/fceb 643+645<fc3c/fc82/fcc8/fcec 643+649<fc3d/fc83 643+64a<fc3e/fc84
   644+62c<fc3f/fcc9 644+62d<fc40/fcca 644+62e<fc41/fccb 644+645<fc42/fc85/fccc/fced
   644+649<fc43/fc86 644+64a<fc44/fc87 645+62c<fc45/fcce 645+62d<fc46/fccf 645+62e<fc47/fcd0
   645+645<fc48/fc89/fcd1 645+649<fc49 645+64a<fc4a 646+62c<fc4b/fcd2 646+62d<fc4c/fcd3
   646+62e<fc4d/fcd4 646+645<fc4e/fc8c/fcd5/fcee 646+649<fc4f/fc8e 646+64a<fc50/fc8f
   647+62c<fc51/fcd7 647+645<fc52/fcd8 647+649<fc53 647+64a<fc54 64a+62e<fc57/fc99/fcdc
   630<fc5b/feab/feac/1ee18/1ee98/1eeb8 631<fc5c/fead/feae/1ee13/1ee93/1eeb3 64a+631<fc64/fc91
   64a+632<fc65/fc92 64a+646<fc67/fc94 628+631<fc6a 628+632<fc6b 628+646<fc6d 62a+631<fc70
   62a+632<fc71 62a+646<fc73 62b+631<fc76 62b+632<fc77 62b+646<fc79 645+627<fc88 646+631<fc8a
   646+632<fc8b 646+646<fc8d 64a+647<fc9b/fcde/fce0/fcf1 628+647<fca0/fce2 62a+647<fca5/fce4
   635+62e<fcb2 644+647<fccd 646+647<fcd6/fcef 647<fcd9/fee9/feea/feeb/feec/1ee24/1ee64/1ee84
   62b+647<fce6 633+647<fce8/fd31 634+645<fce9/fd0c/fd28/fd30 634+647<fcea/fd32
   640<fcf2/fcf3/fcf4/fe71/fe77/fe79/fe7b/fe7d/fe7f 637+649<fcf5/fd11 637+64a<fcf6/fd12
   639+649<fcf7/fd13 639+64a<fcf8/fd14 63a+649<fcf9/fd15 63a+64a<fcfa/fd16 633+649<fcfb/fd17
   633+64a<fcfc/fd18 634+649<fcfd/fd19 634+64a<fcfe/fd1a 62d+649<fcff/fd1b 62d+64a<fd00/fd1c
   62c+649<fd01/fd1d 62c+64a<fd02/fd1e 62e+649<fd03/fd1f 62e+64a<fd04/fd20 635+649<fd05/fd21
   635+64a<fd06/fd22 636+649<fd07/fd23 636+64a<fd08/fd24 634+62c<fd09/fd25/fd2d/fd37
   634+62d<fd0a/fd26/fd2e/fd38 634+62e<fd0b/fd27/fd2f/fd39 634+631<fd0d/fd29 633+631<fd0e/fd2a
   635+631<fd0f/fd2b 636+631<fd10/fd2c 62a+62c+645<fd50 62a+62d+62c<fd51/fd52 62a+62d+645<fd53
   62a+62e+645<fd54 62a+645+62c<fd55 62a+645+62d<fd56 62a+645+62e<fd57 62c+645+62d<fd58/fd59
   62d+645+64a<fd5a 62d+645+649<fd5b 633+62d+62c<fd5c 633+62c+62d<fd5d 633+62c+649<fd5e
   633+645+62d<fd5f/fd60 633+645+62c<fd61 633+645+645<fd62/fd63 635+62d+62d<fd64/fd65
   635+645+645<fd66/fdc5 634+62d+645<fd67/fd68 634+62c+64a<fd69 634+645+62e<fd6a/fd6b
   634+645+645<fd6c/fd6d 636+62d+649<fd6e 636+62e+645<fd6f/fd70 637+645+62d<fd71/fd72
   637+645+645<fd73 637+645+64a<fd74 639+62c+645<fd75/fdc4 639+645+645<fd76/fd77 639+645+649<fd78
   63a+645+645<fd79 63a+645+64a<fd7a 63a+645+649<fd7b 641+62e+645<fd7c/fd7d 642+645+62d<fd7e/fdb4
   642+645+645<fd7f 644+62d+645<fd80/fdb5 644+62d+64a<fd81 644+62d+649<fd82 644+62c+62c<fd83/fd84
   644+62e+645<fd85/fd86 644+645+62d<fd87/fd88 645+62d+62c<fd89 645+62d+645<fd8a 645+62d+64a<fd8b
   645+62c+62d<fd8c 645+62c+645<fd8d 645+62e+62c<fd8e 645+62e+645<fd8f 645+62c+62e<fd92
   647+645+62c<fd93 647+645+645<fd94 646+62d+645<fd95 646+62d+649<fd96 646+62c+645<fd97/fd98
   646+62c+649<fd99 646+645+64a<fd9a 646+645+649<fd9b 64a+645+645<fd9c/fd9d 628+62e+64a<fd9e
   62a+62c+64a<fd9f 62a+62c+649<fda0 62a+62e+64a<fda1 62a+62e+649<fda2 62a+645+64a<fda3
   62a+645+649<fda4 62c+645+64a<fda5 62c+62d+649<fda6 62c+645+649<fda7 633+62e+649<fda8
   635+62d+64a<fda9 634+62d+64a<fdaa 636+62d+64a<fdab 644+62c+64a<fdac 644+645+64a<fdad
   64a+62d+64a<fdae 64a+62c+64a<fdaf 64a+645+64a<fdb0 645+645+64a<fdb1 642+645+64a<fdb2
   646+62d+64a<fdb3 639+645+64a<fdb6 643+645+64a<fdb7 646+62c+62d<fdb8/fdbd 645+62e+64a<fdb9
   644+62c+645<fdba/fdbc 643+645+645<fdbb/fdc3 62c+62d+64a<fdbe 62d+62c+64a<fdbf 645+62c+64a<fdc0
   641+645+64a<fdc1 628+62d+64a<fdc2 633+62e+64a<fdc6 646+62c+64a<fdc7 635+644+6d2<fdf0
   642+644+6d2<fdf1 627+644+644+647<fdf2 627+643+628+631<fdf3 645+62d+645+62f<fdf4
   635+644+639+645<fdf5 631+633+648+644<fdf6 639+644+64a+647<fdf7 648+633+644+645<fdf8
   635+644+649<fdf9 635+644+649+20+627+644+644+647+20+639+644+64a+647+20+648+633+644+645<fdfa
   62c+644+20+62c+644+627+644+647<fdfb 631+6cc+627+644<fdfc 2c<fe10/fe50/ff0c 3001<fe11/fe51/ff64
   3002<fe12/ff61 3a<fe13/fe55/ff1a 21<fe15/fe57/ff01 3f<fe16/fe56/ff1f 3016<fe17 3017<fe18
   2014<fe31/fe58 2013<fe32 5f<fe33/fe34/fe4d/fe4e/fe4f/ff3f 7b<fe37/fe5b/ff5b 7d<fe38/fe5c/ff5d
   3014<fe39/fe5d 3015<fe3a/fe5e 3010<fe3b 3011<fe3c 300a<fe3d 300b<fe3e 300c<fe41/ff62
   300d<fe42/ff63 300e<fe43 300f<fe44 5b<fe47/ff3b 5d<fe48/ff3d 23<fe5f/ff03 26<fe60/ff06
   2a<fe61/ff0a 2d<fe63/ff0d 5c<fe68/ff3c 24<fe69/ff04 25<fe6a/ff05 40<fe6b/ff20 621<fe80
   628<fe8f/fe90/fe91/fe92/1ee01/1ee21/1ee61/1ee81/1eea1 629<fe93/fe94
   62a<fe95/fe96/fe97/fe98/1ee15/1ee35/1ee75/1ee95/1eeb5
   62b<fe99/fe9a/fe9b/fe9c/1ee16/1ee36/1ee76/1ee96/1eeb6
   62c<fe9d/fe9e/fe9f/fea0/1ee02/1ee22/1ee42/1ee62/1ee82/1eea2
   62d<fea1/fea2/fea3/fea4/1ee07/1ee27/1ee47/1ee67/1ee87/1eea7
   62e<fea5/fea6/fea7/fea8/1ee17/1ee37/1ee57/1ee77/1ee97/1eeb7 62f<fea9/feaa/1ee03/1ee83/1eea3
   632<feaf/feb0/1ee06/1ee86/1eea6 633<feb1/feb2/feb3/feb4/1ee0e/1ee2e/1ee4e/1ee6e/1ee8e/1eeae
   634<feb5/feb6/feb7/feb8/1ee14/1ee34/1ee54/1ee74/1ee94/1eeb4
   635<feb9/feba/febb/febc/1ee11/1ee31/1ee51/1ee71/1ee91/1eeb1
   636<febd/febe/febf/fec0/1ee19/1ee39/1ee59/1ee79/1ee99/1eeb9
   637<fec1/fec2/fec3/fec4/1ee08/1ee68/1ee88/1eea8 638<fec5/fec6/fec7/fec8/1ee1a/1ee7a/1ee9a/1eeba
   639<fec9/feca/fecb/fecc/1ee0f/1ee2f/1ee4f/1ee6f/1ee8f/1eeaf
   63a<fecd/fece/fecf/fed0/1ee1b/1ee3b/1ee5b/1ee7b/1ee9b/1eebb
   641<fed1/fed2/fed3/fed4/1ee10/1ee30/1ee70/1ee90/1eeb0
   642<fed5/fed6/fed7/fed8/1ee12/1ee32/1ee52/1ee72/1ee92/1eeb2
   643<fed9/feda/fedb/fedc/1ee0a/1ee2a/1ee6a 644<fedd/fede/fedf/fee0/1ee0b/1ee2b/1ee4b/1ee8b/1eeab
   645<fee1/fee2/fee3/fee4/1ee0c/1ee2c/1ee6c/1ee8c/1eeac
   646<fee5/fee6/fee7/fee8/1ee0d/1ee2d/1ee4d/1ee6d/1ee8d/1eead
   644+627<fef5/fef6/fef7/fef8/fef9/fefa/fefb/fefc 22<ff02 27<ff07 2f<ff0f 5e<ff3e 7c<ff5c 7e<ff5e
   2985<ff5f 2986<ff60 30fb<ff65 30a1<ff67 30a3<ff68 30a5<ff69 30a7<ff6a 30a9<ff6b 30e3<ff6c
   30e5<ff6d 30e7<ff6e 30c3<ff6f 30fc<ff70 30f3<ff9d a2<ffe0 a3<ffe1 ac<ffe2 a6<ffe4 a5<ffe5
   20a9<ffe6 2502<ffe8 2191<ffea 2193<ffec 25a0<ffed 25cb<ffee 2d0<10781 2d1<10782 299<10784
   253<10785 2a3<10787 ab66<10788 2a5<10789 2a4<1078a 256<1078b 257<1078c 1d91<1078d 258<1078e
   25e<1078f 2a9<10790 264<10791 262<10792 260<10793 29b<10794 29c<10796 267<10797 284<10798
   2aa<10799 2ab<1079a 26c<1079b 1df04<1079c a78e<1079d 26e<1079e 1df05<1079f 28e<107a0 1df06<107a1
   276<107a3 277<107a4 27a<107a6 1df08<107a7 27d<107a8 27e<107a9 280<107aa 2a8<107ab 2a6<107ac
   ab67<107ad 2a7<107ae 288<107af 2c71<107b0 28f<107b2 2a1<107b3 2a2<107b4 298<107b5 1c0<107b6
   1c1<107b7 1c2<107b8 1df0a<107b9 1df1e<107ba 11099<1109a 1109b<1109c 110a5<110ab 11131+11127<1112e
   11132+11127<1112f 11347+1133e<1134b 11347+11357<1134c 114b9+114ba<114bb 114b9+114b0<114bc
   114b9+114bd<114be 115b8+115af<115ba 115b9+115af<115bb 11935+11930<11938 1d157<1d15e
   1d158<1d15f/1d160/1d161/1d162/1d163/1d164 1d1b9<1d1bb/1d1bd/1d1bf 1d1ba<1d1bc/1d1be/1d1c0
   131<1d6a4 237<1d6a5 392<1d6a9/1d6e3/1d71d/1d757/1d791 394<1d6ab/1d6e5/1d71f/1d759/1d793
   396<1d6ad/1d6e7/1d721/1d75b/1d795 39a<1d6b1/1d6eb/1d725/1d75f/1d799
   39b<1d6b2/1d6ec/1d726/1d760/1d79a 39c<1d6b3/1d6ed/1d727/1d761/1d79b
   39d<1d6b4/1d6ee/1d728/1d762/1d79c 39e<1d6b5/1d6ef/1d729/1d763/1d79d
   3a4<1d6bb/1d6f5/1d72f/1d769/1d7a3 3a6<1d6bd/1d6f7/1d731/1d76b/1d7a5
   3a7<1d6be/1d6f8/1d732/1d76c/1d7a6 3a8<1d6bf/1d6f9/1d733/1d76d/1d7a7
   2207<1d6c1/1d6fb/1d735/1d76f/1d7a9 3b6<1d6c7/1d701/1d73b/1d775/1d7af
   3bb<1d6cc/1d706/1d740/1d77a/1d7b4 3bd<1d6ce/1d708/1d742/1d77c/1d7b6
   3be<1d6cf/1d709/1d743/1d77d/1d7b7 3c3<1d6d4/1d70e/1d748/1d782/1d7bc
   3c4<1d6d5/1d70f/1d749/1d783/1d7bd 3c8<1d6d9/1d713/1d74d/1d787/1d7c1
   2202<1d6db/1d715/1d74f/1d789/1d7c3 3dc<1d7ca 3dd<1d7cb 66e<1ee1c/1ee7c 6a1<1ee1e/1ee7e
   66f<1ee1f/1ee5f 30+2e<1f100 30+2c<1f101 31+2c<1f102 32+2c<1f103 33+2c<1f104 34+2c<1f105
   35+2c<1f106 36+2c<1f107 37+2c<1f108 38+2c<1f109 39+2c<1f10a 28+41+29<1f110 28+42+29<1f111
   28+43+29<1f112 28+44+29<1f113 28+45+29<1f114 28+46+29<1f115 28+47+29<1f116 28+48+29<1f117
   28+49+29<1f118 28+4a+29<1f119 28+4b+29<1f11a 28+4c+29<1f11b 28+4d+29<1f11c 28+4e+29<1f11d
   28+4f+29<1f11e 28+50+29<1f11f 28+51+29<1f120 28+52+29<1f121 28+53+29<1f122 28+54+29<1f123
   28+55+29<1f124 28+56+29<1f125 28+57+29<1f126 28+58+29<1f127 28+59+29<1f128 28+5a+29<1f129
   3014+53+3015<1f12a 43+44<1f12d 57+5a<1f12e 48+56<1f14a 53+44<1f14c 53+53<1f14d 50+50+56<1f14e
   57+43<1f14f 4d+43<1f16a 4d+44<1f16b 4d+52<1f16c 44+4a<1f190 307b+304b<1f200 30b3+30b3<1f201
   5b57<1f211 53cc<1f212 591a<1f215/2f85d 89e3<1f216 4ea4<1f218 6620<1f219 7121<1f21a 524d<1f21c
   5f8c<1f21d 518d<1f21e/2f815 65b0<1f21f 521d<1f220 7d42<1f221 8ca9<1f223 58f0<1f224 5439<1f225
   6f14<1f226 6295<1f227 6355<1f228 904a<1f22b 6307<1f22f 6253<1f231 7981<1f232 7a7a<1f233 5408<1f234
   6e80<1f235 7533<1f238 5272<1f239/2f822 55b6<1f23a 914d<1f23b 3014+672c+3015<1f240
   3014+4e09+3015<1f241 3014+4e8c+3015<1f242 3014+5b89+3015<1f243 3014+70b9+3015<1f244
   3014+6253+3015<1f245 3014+76d7+3015<1f246 3014+52dd+3015<1f247 3014+6557+3015<1f248 5f97<1f250
   53ef<1f251 4e3d<2f800 4e38<2f801 4e41<2f802 20122<2f803 4f60<2f804 4fbb<2f806 5002<2f807
   507a<2f808 5099<2f809 50cf<2f80b 349e<2f80c 2063a<2f80d 5154<2f80f 5164<2f810 5177<2f811
   2051c<2f812 34b9<2f813 5167<2f814 2054b<2f816 5197<2f817 51a4<2f818 4ecc<2f819 51ac<2f81a
   291df<2f81c 5203<2f81e 34df<2f81f 523b<2f820 5246<2f821 5277<2f823 3515<2f824 5305<2f829
   5306<2f82a 5349<2f82c 535a<2f82e 5373<2f82f 537d<2f830 537f<2f831/2f832/2f833 20a2c<2f834
   7070<2f835 53ca<2f836 53df<2f837 20b63<2f838 53eb<2f839 53f1<2f83a 5406<2f83b 549e<2f83c
   5438<2f83d 5448<2f83e 5468<2f83f 54a2<2f840 54f6<2f841 5510<2f842 5553<2f843 5563<2f844
   5584<2f845/2f846 55ab<2f848 55b3<2f849 55c2<2f84a 5716<2f84b 5717<2f84d 5651<2f84e 5674<2f84f
   58ee<2f851 57ce<2f852 57f4<2f853 580d<2f854 578b<2f855 5832<2f856 5831<2f857 58ac<2f858
   214e4<2f859 58f2<2f85a 58f7<2f85b 5906<2f85c 5922<2f85e 5962<2f85f 216a8<2f860 216ea<2f861
   59ec<2f862 5a1b<2f863 5a27<2f864 59d8<2f865 5a66<2f866 36ee<2f867 36fc<2f868 5b08<2f869
   5b3e<2f86a/2f86b 219c8<2f86c 5bc3<2f86d 5bd8<2f86e 5bf3<2f870 21b18<2f871 5bff<2f872 5c06<2f873
   5f53<2f874 3781<2f876 5c60<2f877 5cc0<2f879 5c8d<2f87a 21de4<2f87b 5d43<2f87c 21de6<2f87d
   5d6e<2f87e 5d6b<2f87f 5d7c<2f880 5de1<2f881 5de2<2f882 382f<2f883 5dfd<2f884 5e28<2f885 5e3d<2f886
   5e69<2f887 3862<2f888 22183<2f889 387c<2f88a 5eb0<2f88b 5eb3<2f88c 5eb6<2f88d 2a392<2f88f
   22331<2f891/2f892 8201<2f893/2f98b 5f22<2f894/2f895 38c7<2f896 232b8<2f897 261da<2f898 5f62<2f899
   5f6b<2f89a 38e3<2f89b 5f9a<2f89c 5fcd<2f89d 5fd7<2f89e 5ff9<2f89f 6081<2f8a0 393a<2f8a1 391c<2f8a2
   226d4<2f8a4 60c7<2f8a5 6148<2f8a6 614c<2f8a7/2f8a9 617a<2f8aa 61b2<2f8ac 61a4<2f8ad 61af<2f8ae
   61de<2f8af 6210<2f8b2 621b<2f8b3 625d<2f8b4 62b1<2f8b5 62d4<2f8b6 6350<2f8b7 22b0c<2f8b8
   633d<2f8b9 62fc<2f8ba 6368<2f8bb 6383<2f8bc 63e4<2f8bd 22bf1<2f8be 6422<2f8bf 63c5<2f8c0
   63a9<2f8c1 3a2e<2f8c2 6469<2f8c3 647e<2f8c4 649d<2f8c5 6477<2f8c6 3a6c<2f8c7 656c<2f8c9
   2300a<2f8ca 65e3<2f8cb 66f8<2f8cc 6649<2f8cd 3b19<2f8ce 3b08<2f8d0 3ae4<2f8d1 5192<2f8d2
   5195<2f8d3 6700<2f8d4 669c<2f8d5 80ad<2f8d6 43d9<2f8d7 6721<2f8da 675e<2f8db 6753<2f8dc
   233c3<2f8dd 3b49<2f8de 67fa<2f8df 6785<2f8e0 6852<2f8e1 2346d<2f8e3 688e<2f8e4 681f<2f8e5
   6914<2f8e6 6942<2f8e8 69a3<2f8e9 69ea<2f8ea 6aa8<2f8eb 236a3<2f8ec 6adb<2f8ed 3c18<2f8ee
   6b21<2f8ef 238a7<2f8f0 6b54<2f8f1 3c4e<2f8f2 6b72<2f8f3 6b9f<2f8f4 6bbb<2f8f6 23a8d<2f8f7
   21d0b<2f8f8 23afa<2f8f9 6c4e<2f8fa 23cbc<2f8fb 6cbf<2f8fc 6ccd<2f8fd 6c67<2f8fe 6d16<2f8ff
   6d3e<2f900 6d69<2f903 6d78<2f904 6d85<2f905 23d1e<2f906 6d34<2f907 6e2f<2f908 6e6e<2f909
   3d33<2f90a 6ec7<2f90c 23ed1<2f90d 6df9<2f90e 6f6e<2f90f 23f5e<2f910 23f8e<2f911 6fc6<2f912
   7039<2f913 701b<2f915 3d96<2f916 704a<2f917 707d<2f918 7077<2f919 70ad<2f91a 20525<2f91b
   7145<2f91c 24263<2f91d 719c<2f91e 243ab<2f91f 7228<2f920 7250<2f922 24608<2f923 7280<2f924
   7295<2f925 24735<2f926 24814<2f927 737a<2f928 738b<2f929 3eac<2f92a 73a5<2f92b 3eb8<2f92c/2f92d
   7447<2f92e 745c<2f92f 7485<2f931 74ca<2f932 3f1b<2f933 7524<2f934 24c36<2f935 753e<2f936
   24c92<2f937 2219f<2f939 7610<2f93a 24fa1<2f93b 24fb8<2f93c 25044<2f93d 3ffc<2f93e 4008<2f93f
   250f3<2f941 250f2<2f942 25119<2f943 25133<2f944 771e<2f945 771f<2f946/2f947 778b<2f94a 4046<2f94b
   4096<2f94c 2541d<2f94d 784e<2f94e 40e3<2f951 25626<2f952 2569a<2f954 256c5<2f955 79eb<2f957
   412f<2f958 7a4a<2f95a 7a4f<2f95b 2597c<2f95c 25aa7<2f95d/2f95e 7aee<2f95f 4202<2f960 25bab<2f961
   7bc6<2f962 7bc9<2f963 4227<2f964 25c80<2f965 7cd2<2f966 42a0<2f967 7ce8<2f968 7ce3<2f969
   7d00<2f96a 25f86<2f96b 7d63<2f96c 4301<2f96d 7dc7<2f96e 7e02<2f96f 7e45<2f970 4334<2f971
   26228<2f972 26247<2f973 4359<2f974 262d9<2f975 7f7a<2f976 2633e<2f977 7f95<2f978 7ffa<2f979
   264da<2f97b 26523<2f97c 8060<2f97d 265a8<2f97e 8070<2f97f 2335f<2f980 43d5<2f981 80b2<2f982
   8103<2f983 440b<2f984 813e<2f985 5ab5<2f986 267a7<2f987 267b5<2f988 23393<2f989 2339c<2f98a
   8204<2f98c 8f9e<2f98d 446b<2f98e 8291<2f98f 828b<2f990 829d<2f991 52b3<2f992 82b1<2f993 82b3<2f994
   82bd<2f995 82e6<2f996 26b3c<2f997 831d<2f999 8363<2f99a 83ad<2f99b 8323<2f99c 83bd<2f99d
   83e7<2f99e 8353<2f9a0 83ca<2f9a1 83cc<2f9a2 83dc<2f9a3 26c36<2f9a4 26d6b<2f9a5 26cd5<2f9a6
   452b<2f9a7 84f1<2f9a8 84f3<2f9a9 8516<2f9aa 273ca<2f9ab 8564<2f9ac 26f2c<2f9ad 455d<2f9ae
   4561<2f9af 26fb1<2f9b0 270d2<2f9b1 456b<2f9b2 8650<2f9b3 8667<2f9b5 8669<2f9b6 86a9<2f9b7
   8688<2f9b8 870e<2f9b9 86e2<2f9ba 8728<2f9bc 876b<2f9bd 8786<2f9be 45d7<2f9bf 87e1<2f9c0 8801<2f9c1
   45f9<2f9c2 8860<2f9c3 27667<2f9c5 88d7<2f9c6 88de<2f9c7 4635<2f9c8 88fa<2f9c9 34bb<2f9ca
   278ae<2f9cb 27966<2f9cc 46be<2f9cd 46c7<2f9ce 8aa0<2f9cf 27ca8<2f9d3 8cab<2f9d4 8cc1<2f9d5
   8d1b<2f9d6 8d77<2f9d7 27f2f<2f9d8 20804<2f9d9 8dcb<2f9da 8dbc<2f9db 8df0<2f9dc 208de<2f9dd
   8ed4<2f9de 285d2<2f9e0 285ed<2f9e1 9094<2f9e2 90f1<2f9e3 9111<2f9e4 2872e<2f9e5 911b<2f9e6
   9238<2f9e7 92d7<2f9e8 92d8<2f9e9 927c<2f9ea 93f9<2f9eb 9415<2f9ec 28bfa<2f9ed 958b<2f9ee
   4995<2f9ef 95b7<2f9f0 28d77<2f9f1 49e6<2f9f2 96c3<2f9f3 5db2<2f9f4 9723<2f9f5 29145<2f9f6
   2921a<2f9f7 4a6e<2f9f8 4a76<2f9f9 97e0<2f9fa 2940a<2f9fb 4ab2<2f9fc 29496<2f9fd 9829<2fa00
   295b6<2fa01 98e2<2fa02 4b33<2fa03 9929<2fa04 99a7<2fa05 99c2<2fa06 99fe<2fa07 4bce<2fa08
   29b30<2fa09 9c40<2fa0b 9cfd<2fa0c 4cce<2fa0d 4ced<2fa0e 9d67<2fa0f 2a0ce<2fa10 4cf8<2fa11
   2a105<2fa12 2a20e<2fa13 2a291<2fa14 4d56<2fa16 9efe<2fa18 9f05<2fa19 9f0f<2fa1a 9f16<2fa1b
   2a600<2fa1d"

end ApiBindings.Text.Table
